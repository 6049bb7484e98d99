/-
# The spellings of a plural block

A block whose forms are texts that can be read is written in one of three ways
(`_serialize_plural`). Each of them is cut into the texts of the forms again, with the same
categories (`exists_spelling`). A form that is written with its label loses its leading
blanks, so a block is read back from what is written for it if it has no labels or if no
form starts with a blank (`PluralBlock.IsReadable.read_eq_ok_iff`).
-/

import Phrasebook.Proofs.Label
import Phrasebook.Proofs.Respelling

namespace Phrasebook

variable {s t w : List Char} {ps : List (List Char)} {fallback : ArgumentKey}
variable {pairs : List (PluralCategory × List Char)} {forms : List PluralForm} {b : PluralBlock}

/-- The forms that are read from categories and texts. -/
theorem PluralForm.readAll_eq_ok_iff :
    PluralForm.readAll pairs = .ok forms ↔ List.Forall₂ (fun p f =>
      PluralForm.category f = p.1 ∧ FormElement.readAll p.2 = .ok f.elements) pairs forms := by
  induction pairs generalizing forms with
  | nil =>
    rw [PluralForm.readAll, Except.ok.injEq, List.forall₂_nil_left_iff]
    exact eq_comm
  | cons p pairs ih =>
    obtain ⟨category, s⟩ := p
    simp only [PluralForm.readAll, List.forall₂_cons_left_iff]
    constructor
    · intro h
      split at h
      · cases h
      · rename_i elements he
        obtain ⟨forms', hf, rfl⟩ := map_eq_ok_iff.1 h
        exact ⟨_, _, ⟨rfl, he⟩, ih.1 hf, rfl⟩
    · rintro ⟨f, forms', ⟨rfl, he⟩, hf, rfl⟩
      rw [he, ih.2 hf]
      rfl

/-- Forms are read back from their categories and texts that are read as their elements. -/
theorem PluralForm.readAll_map_eq_ok_iff {text : PluralForm → List Char} :
    PluralForm.readAll (forms.map fun f => (f.category, text f)) = .ok forms ↔
      ∀ f ∈ forms, FormElement.readAll (text f) = .ok f.elements := by
  rw [PluralForm.readAll_eq_ok_iff, List.forall₂_map_left_iff, List.forall₂_same]
  simp

/-- There are labels exactly if each text has its own. -/
theorem formLabels?_eq_some_iff :
    formLabels? ps = some pairs ↔ List.Forall₂ (fun t p => formLabel? t = some p) ps pairs := by
  induction ps generalizing pairs with
  | nil => simp [formLabels?, eq_comm]
  | cons t ps ih =>
    simp only [formLabels?, List.forall₂_cons_left_iff, ← ih]
    cases formLabel? t <;> cases formLabels? ps <;> simp [eq_comm]

/-- **A text without a label is enough for all labels not to count.** -/
theorem formLabels?_eq_none_iff : formLabels? ps = none ↔ ∃ t ∈ ps, formLabel? t = none := by
  induction ps with
  | nil => simp [formLabels?]
  | cons t ps ih =>
    simp only [formLabels?, List.exists_mem_cons_iff, ← ih]
    cases formLabel? t <;> cases formLabels? ps <;> simp

/-- There are no labels if one text has none. -/
theorem formLabels?_eq_none (h : ¬ ∀ t ∈ ps, looksLabelled t = true) : formLabels? ps = none := by
  rw [formLabels?_eq_none_iff]
  simpa [looksLabelled] using h

/-- Unlabelled forms have a category each, up to six. -/
theorem length_positionalCategories {n : Nat} (hn : 2 ≤ n) :
    (positionalCategories n).length = min n 6 := by
  unfold positionalCategories
  split
  · omega
  · rfl
  · rfl
  · simp
    omega

/-- As many texts as there are categories are all kept. -/
theorem positionalForms_eq_zip (hne : ps ≠ [])
    (h : (positionalCategories ps.length).length = ps.length) :
    positionalForms ps = (positionalCategories ps.length).zip ps := by
  have hlast : ps.take (ps.length - 1) ++ ps.getLast?.toList = ps := by
    rw [List.getLast?_eq_getLast_of_ne_nil hne, ← List.dropLast_eq_take]
    exact List.dropLast_concat_getLast hne
  rw [positionalForms, h, hlast]

namespace PluralBlock

/-- The texts of the forms of a block. -/
def texts (b : PluralBlock) : List (List Char) := b.forms.map PluralForm.chars

/-- The key of a block as it is written, if the block names its key. -/
def keyChars (b : PluralBlock) : List Char := if b.explicitKey then b.key.chars ++ [':'] else []

/-- Whether `w` is written between the braces of a block. -/
def Writes (b : PluralBlock) (w : List Char) : Prop := ∃ s, b.body = .ok s ∧ w = b.keyChars ++ s

/-- A block is written as what is written between its double braces. -/
theorem chars_eq_ok_iff :
    b.chars = .ok t ↔ ∃ w, b.Writes w ∧ t = '{' :: '{' :: (w ++ ['}', '}']) := by
  simp only [chars, map_eq_ok_iff, Writes, keyChars]
  constructor
  · rintro ⟨s, hs, rfl⟩
    exact ⟨_, ⟨s, hs, rfl⟩, rfl⟩
  · rintro ⟨_, ⟨s, hs, rfl⟩, rfl⟩
    exact ⟨s, hs, rfl⟩

/-- A block whose forms are texts that are read as these forms, and that a plural block can
be closed behind. -/
structure IsReadable (b : PluralBlock) : Prop where
  forms_ne_nil : b.forms ≠ []
  isPiece {f : PluralForm} : f ∈ b.forms → IsPiece f.chars
  readAll {f : PluralForm} : f ∈ b.forms → FormElement.readAll f.chars = .ok f.elements
  not_closes : ¬ Closes 0 (Text.joined '|' b.texts ++ ['}'])
  key : b.explicitKey = true → b.key.IsWritable

/-- A body that is cut into the forms of a block, where `text` is left of each form. -/
structure Spelling (b : PluralBlock) (s : List Char) (text : PluralForm → List Char) : Prop where
  balanced : braceDepth 0 s = 0
  keyPrefix_eq : b.explicitKey = false → keyPrefix s = .ok none
  labelledForms_eq : labelledForms (formTexts s) = b.forms.map fun f => (f.category, text f)

/-- A short body is the form for all numbers but one behind an empty form for one, if it has no
colon and no label. -/
theorem shortBody?_eq_some_iff :
    b.shortBody? = some s ↔
      ∃ f, b.forms = [⟨.one, []⟩, f] ∧ f.category = .other ∧ f.chars = s ∧ ':' ∉ s ∧
        formLabel? s = none := by
  unfold shortBody?
  constructor
  · intro h
    split at h
    · rename_i elements hf
      obtain ⟨hs, he⟩ := Option.ite_none_left_eq_some.1 h
      simp only [looksLabelled, Bool.or_eq_true, List.contains_iff_mem, not_or, Bool.not_eq_true,
        Option.isSome_eq_false_iff, Option.isNone_iff_eq_none] at hs
      obtain rfl := Option.some.inj he
      exact ⟨_, hf, rfl, rfl, hs⟩
    · cases h
  · rintro ⟨⟨category, elements⟩, hf, hc, rfl, hcolon, hlabel⟩
    obtain rfl : category = .other := hc
    rw [hf]
    simp [hcolon, looksLabelled, hlabel]

/-- Nothing but a bar stands in front of the only text of a block that is written without labels. -/
theorem joined_texts_of_short (h : b.shortBody? = some s) :
    Text.joined '|' b.texts = '|' :: s := by
  obtain ⟨f, hf, -, rfl, -, -⟩ := shortBody?_eq_some_iff.1 h
  rw [texts, hf]
  rfl

/-- Whether the forms of a block have the categories of unlabelled forms. -/
def IsPositional (b : PluralBlock) : Prop :=
  2 ≤ b.forms.length ∧ b.forms.map (·.category) = positionalCategories b.forms.length

/-- A block with other categories is not written without labels. -/
theorem plainBody?_of_not_isPositional (h : ¬ b.IsPositional) : b.plainBody? = .ok none := by
  unfold plainBody?
  rw [if_pos]
  rw [IsPositional, not_and_or] at h
  simpa using h

/-- A block with the categories of unlabelled forms is written without labels, unless it would look
keyed or labelled. -/
theorem plainBody?_of_isPositional (h : b.IsPositional) :
    b.plainBody? = (b.looksKeyed (Text.joined '|' b.texts)).map fun keyed =>
      if keyed || b.texts.all looksLabelled then none else some (Text.joined '|' b.texts) := by
  unfold plainBody?
  rw [if_neg]
  · rfl
  · rw [List.length_map, not_or, not_lt, not_not]
    exact h

/-- A body does not look keyed if its block names a key, or if none is read from the body. -/
theorem looksKeyed_eq_false_iff :
    b.looksKeyed s = .ok false ↔ (b.explicitKey = false → keyPrefix s = .ok none) := by
  unfold looksKeyed
  cases b.explicitKey <;> simp [map_eq_ok_iff]

/-- A body looks keyed if its block names no key and one is read from the body. -/
theorem looksKeyed_eq_true_iff :
    b.looksKeyed s = .ok true ↔ b.explicitKey = false ∧ ∃ k t, keyPrefix s = .ok (some (k, t)) := by
  unfold looksKeyed
  cases b.explicitKey <;> simp [map_eq_ok_iff, Option.isSome_iff_exists]

/-- Whether a body looks keyed has no answer if it starts with an overlong number. -/
theorem looksKeyed_eq_error_iff {e : ParseError} :
    b.looksKeyed s = .error e ↔ b.explicitKey = false ∧ keyPrefix s = .error e := by
  unfold looksKeyed
  cases b.explicitKey <;> simp [map_eq_error_iff]

/-- A block is written without labels if its forms have the categories of unlabelled forms, do
not all look labelled, and do not look like a key that is not theirs. -/
theorem plainBody?_eq_some_iff :
    b.plainBody? = .ok (some s) ↔ b.IsPositional ∧
      (b.explicitKey = false → keyPrefix (Text.joined '|' b.texts) = .ok none) ∧
        (¬ ∀ t ∈ b.texts, looksLabelled t = true) ∧ s = Text.joined '|' b.texts := by
  by_cases hp : b.IsPositional
  · rw [plainBody?_of_isPositional hp, map_eq_ok_iff, ← looksKeyed_eq_false_iff]
    constructor
    · rintro ⟨keyed, hk, he⟩
      obtain ⟨hn, he⟩ := Option.ite_none_left_eq_some.1 he
      simp only [Bool.or_eq_true, not_or, Bool.not_eq_true, List.all_eq_true] at hn
      exact ⟨hp, hn.1 ▸ hk, hn.2, (Option.some.inj he).symm⟩
    · rintro ⟨-, hk, hn, rfl⟩
      refine ⟨false, hk, if_neg ?_⟩
      simpa using hn
  · rw [plainBody?_of_not_isPositional hp]
    simp [hp]

/-- Whether a block is written with the labels of its forms. -/
def IsLabelled (b : PluralBlock) : Prop := b.shortBody? = none ∧ b.plainBody? = .ok none

/-- A body is short, or else plain, or else labelled. -/
theorem body_eq_ok_iff :
    b.body = .ok s ↔ b.shortBody? = some s ∨ (b.shortBody? = none ∧ b.plainBody? = .ok (some s)) ∨
      (b.IsLabelled ∧ s = b.labelledBody) := by
  unfold body IsLabelled
  cases b.shortBody? with
  | some r => simp
  | none =>
    rw [map_eq_ok_iff]
    constructor
    · rintro ⟨o, ho, rfl⟩
      cases o with
      | none => exact .inr (.inr ⟨⟨rfl, ho⟩, rfl⟩)
      | some r => exact .inr (.inl ⟨rfl, ho⟩)
    · rintro (h | ⟨-, h⟩ | ⟨⟨-, h⟩, rfl⟩)
      · cases h
      · exact ⟨_, h, rfl⟩
      · exact ⟨_, h, rfl⟩

/-- Two texts or more without labels are read with the categories of their places. -/
theorem labelledForms_of_two_le (h : formLabels? ps = none) (hps : 2 ≤ ps.length) :
    labelledForms ps = positionalForms ps := by
  match ps, hps with
  | _ :: _ :: _, _ => simp [labelledForms, h]

namespace IsReadable

/-- A readable block has a text at least. -/
theorem texts_ne_nil (hb : b.IsReadable) : b.texts ≠ [] := by simpa [texts] using hb.forms_ne_nil

/-- The texts of a readable block are pieces. -/
theorem isPiece_of_mem_texts (hb : b.IsReadable) (h : t ∈ b.texts) : IsPiece t := by
  obtain ⟨f, hf, rfl⟩ := List.mem_map.1 h
  exact hb.isPiece hf

/-- A short body spells the forms of the block. -/
theorem spelling_of_short (hb : b.IsReadable) (h : b.shortBody? = some s) :
    b.Spelling s PluralForm.chars := by
  obtain ⟨f, hf, hc, rfl, hcolon, hlabel⟩ := shortBody?_eq_some_iff.1 h
  have hpiece : IsPiece f.chars := hb.isPiece (by simp [hf])
  have htexts : formTexts f.chars = [f.chars] :=
    formTexts_joined (List.cons_ne_nil f.chars []) (by simpa using hpiece)
  have hnone : formLabels? [f.chars] = none := by simp [formLabels?, hlabel]
  refine ⟨hpiece.balanced, fun _ => keyPrefix_of_not_mem hcolon, ?_⟩
  simp only [htexts, hf, labelledForms, hnone, List.map_cons, List.map_nil, hc]
  rfl

/-- A plain body spells the forms of the block. -/
theorem spelling_of_plain (hb : b.IsReadable) (h : b.plainBody? = .ok (some s)) :
    b.Spelling s PluralForm.chars := by
  obtain ⟨⟨htwo, hcat⟩, hkey, hlabel, rfl⟩ := plainBody?_eq_some_iff.1 h
  have hlen : b.texts.length = b.forms.length := List.length_map _
  refine ⟨braceDepth_joined fun t ht => (hb.isPiece_of_mem_texts ht).balanced, hkey, ?_⟩
  have hcats : (positionalCategories b.texts.length).length = b.texts.length := by
    rw [hlen, ← hcat, List.length_map]
  rw [formTexts_joined hb.texts_ne_nil fun t => hb.isPiece_of_mem_texts,
    labelledForms_of_two_le (formLabels?_eq_none hlabel) (hlen ▸ htwo),
    positionalForms_eq_zip hb.texts_ne_nil hcats, hlen, ← hcat, texts, List.zip_map']

/-- A labelled body spells the forms of the block without the blanks at their starts. -/
theorem spelling_of_labelled (hb : b.IsReadable) :
    b.Spelling b.labelledBody fun f => Text.trimLeft f.chars := by
  have hpieces : ∀ t ∈ b.forms.map PluralForm.labelledChars, IsPiece t := by
    intro t ht
    obtain ⟨f, hf, rfl⟩ := List.mem_map.1 ht
    have hbar : '|' ∉ f.category.name.toList ++ ['='] := by
      cases f.category <;> decide
    rw [f.labelledChars_eq]
    exact (IsPiece.of_braceFree f.category.braceFree_label hbar).append (hb.isPiece hf)
  have hne : b.forms.map PluralForm.labelledChars ≠ [] := by simpa using hb.forms_ne_nil
  have hlabels : formLabels? (b.forms.map PluralForm.labelledChars) =
      some (b.forms.map fun f => (f.category, Text.trimLeft f.chars)) := by
    rw [formLabels?_eq_some_iff, List.forall₂_map_left_iff, List.forall₂_map_right_iff,
      List.forall₂_same]
    exact fun f _ => formLabel?_name f.category f.chars
  refine ⟨braceDepth_joined fun t ht => (hpieces t ht).balanced, fun _ => ?_, ?_⟩
  · obtain ⟨f, forms, hf⟩ := List.exists_cons_of_ne_nil hb.forms_ne_nil
    obtain ⟨r, hr⟩ : ∃ r, b.labelledBody = f.category.name.toList ++ '=' :: r := by
      rw [labelledBody, hf, List.map_cons, f.labelledChars_eq]
      cases forms with
      | nil => exact ⟨f.chars, by simp⟩
      | cons g forms =>
        rw [Text.joined_cons (by simp), List.append_assoc, List.append_assoc, List.singleton_append]
        exact ⟨_, rfl⟩
    rw [hr]
    exact keyPrefix_name f.category r
  · simp only [labelledBody, formTexts_joined hne hpieces, labelledForms, hlabels]

/-- **What is written for a block is cut into its forms again,** without their leading blanks if
it is written with labels. -/
theorem exists_spelling (hb : b.IsReadable) (h : b.body = .ok s) :
    (b.IsLabelled ∧ b.Spelling s fun f => Text.trimLeft f.chars) ∨
      (¬ b.IsLabelled ∧ b.Spelling s PluralForm.chars) := by
  rcases body_eq_ok_iff.1 h with h | ⟨hn, h⟩ | ⟨hl, rfl⟩
  · exact .inr ⟨fun hl => by simp [hl.1] at h, hb.spelling_of_short h⟩
  · exact .inr ⟨fun hl => by simp [hl.2] at h, hb.spelling_of_plain h⟩
  · exact .inl ⟨hl, hb.spelling_of_labelled⟩

end IsReadable

/-- Whether the forms of a block start with a number in front of a colon that has too many digits,
where a key would be looked for. -/
def HasOverlongStart (b : PluralBlock) : Prop :=
  b.IsPositional ∧ b.explicitKey = false ∧ ∃ e, keyPrefix (Text.joined '|' b.texts) = .error e

/-- Writing without labels fails exactly at an overlong start. -/
theorem plainBody?_eq_error_iff :
    (∃ e, b.plainBody? = .error e) ↔ b.HasOverlongStart := by
  by_cases hp : b.IsPositional
  · simp [plainBody?_of_isPositional hp, map_eq_error_iff, looksKeyed_eq_error_iff,
      HasOverlongStart, hp]
  · simp [plainBody?_of_not_isPositional hp, HasOverlongStart, hp]

/-- **Every block can be written,** unless its forms start with a number that is too long. -/
theorem exists_writes_iff : (∃ w, b.Writes w) ↔ ¬ b.HasOverlongStart := by
  constructor
  · rintro ⟨_, s, hs, rfl⟩ hlong
    have hlong' := hlong
    rw [← plainBody?_eq_error_iff] at hlong'
    obtain ⟨e, he⟩ := hlong'
    rcases body_eq_ok_iff.1 hs with h | ⟨-, h⟩ | ⟨⟨-, h⟩, -⟩
    · -- the empty form in front of the only text leaves no room for a key
      obtain ⟨-, -, e, hk⟩ := hlong
      rw [joined_texts_of_short h, ← List.nil_append ('|' :: s),
        keyPrefix_of_mark (by simp) (by decide) (by decide) (by decide) (by decide)] at hk
      cases hk
    · rw [he] at h
      cases h
    · rw [he] at h
      cases h
  · intro hlong
    rw [← plainBody?_eq_error_iff, not_exists] at hlong
    suffices h : ∃ s, b.body = .ok s by
      obtain ⟨s, hs⟩ := h
      exact ⟨_, s, hs, rfl⟩
    unfold body
    cases b.shortBody? with
    | some s => exact ⟨s, rfl⟩
    | none =>
      cases hb : b.plainBody? with
      | error e => exact absurd hb (hlong e)
      | ok o => exact ⟨_, rfl⟩

/-- A block is written with labels where all of its forms look labelled. -/
theorem isLabelled_of_looksLabelled (hs : b.body = .ok s)
    (hall : ∀ f ∈ b.forms, looksLabelled f.chars = true) : b.IsLabelled := by
  rcases body_eq_ok_iff.1 hs with h | ⟨-, h⟩ | ⟨hl, -⟩
  · obtain ⟨f, hf, -⟩ := shortBody?_eq_some_iff.1 h
    have hempty : looksLabelled (PluralForm.chars ⟨.one, []⟩) = true := hall _ (by simp [hf])
    exact absurd hempty (by decide)
  · obtain ⟨-, -, hn, -⟩ := plainBody?_eq_some_iff.1 h
    refine absurd (fun t ht => ?_) hn
    obtain ⟨f, hf, rfl⟩ := List.mem_map.1 ht
    exact hall f hf
  · exact hl

/-- **However a block is written, it is not closed before its forms would have been.** -/
theorem loosensBehind_body (h : b.body = .ok s) : LoosensBehind (Text.joined '|' b.texts) s := by
  rcases body_eq_ok_iff.1 h with h | ⟨-, h⟩ | ⟨-, rfl⟩
  · rw [joined_texts_of_short h]
    exact .exchange (x := ['|']) (y := []) rfl .nil (.refl s)
  · obtain ⟨-, -, -, rfl⟩ := plainBody?_eq_some_iff.1 h
    exact .of_loosens (.refl _)
  · refine loosens_joined ?_
    rw [texts, List.forall₂_map_left_iff, List.forall₂_map_right_iff, List.forall₂_same]
    intro f _
    rw [f.labelledChars_eq]
    exact .exchange (x := []) rfl f.category.braceFree_label (.refl f.chars)

/-- The key that is written in front of a body is read from it. -/
theorem keyPrefix_keyChars (hk : b.explicitKey = true → b.key.IsWritable)
    (hs : b.explicitKey = false → keyPrefix s = .ok none) :
    keyPrefix (b.keyChars ++ s) = .ok (if b.explicitKey then some (b.key, s) else none) := by
  unfold keyChars
  cases he : b.explicitKey with
  | true => simpa using keyPrefix_chars (hk he) s
  | false => exact hs he

namespace IsReadable

/-- The key of a readable block has no braces. -/
theorem braceFree_keyChars (hb : b.IsReadable) : BraceFree b.keyChars := by
  unfold keyChars
  split
  · rename_i he
    exact (hb.key he).braceFree.append (.cons (by decide) (by decide) .nil)
  · exact .nil

/-- **What is written for a block stands in its braces as a whole.** -/
theorem isPluralBody (hb : b.IsReadable) (hw : b.Writes w) : IsPluralBody w := by
  obtain ⟨s, hs, rfl⟩ := hw
  have hbalanced : braceDepth 0 s = 0 := by
    rcases hb.exists_spelling hs with ⟨-, h⟩ | ⟨-, h⟩ <;> exact h.balanced
  rw [isPluralBody_append_iff hb.braceFree_keyChars, isPluralBody_iff]
  exact ⟨hbalanced, (loosensBehind_body hs).not_closes hb.not_closes⟩

/-- A body that spells a block is read as the block exactly if each text is read as its form. -/
theorem read_eq_ok_iff_of_spelling {text : PluralForm → List Char} (hb : b.IsReadable)
    (h : b.Spelling s text) (hf : b.explicitKey = false → b.key = fallback) :
    PluralBlock.read fallback (b.keyChars ++ s) = .ok b ↔
      ∀ f ∈ b.forms, FormElement.readAll (text f) = .ok f.elements := by
  rw [← PluralForm.readAll_map_eq_ok_iff, ← h.labelledForms_eq, PluralBlock.read,
    keyPrefix_keyChars hb.key h.keyPrefix_eq]
  obtain ⟨key, forms, explicitKey⟩ := b
  cases explicitKey with
  | true => simp [map_eq_ok_iff]
  | false =>
    obtain rfl : key = fallback := hf rfl
    simp [map_eq_ok_iff, keyChars]

/-- **A block is read back from what is written for it,** unless it is written with labels and one
of its forms starts with a blank. -/
theorem read_eq_ok_iff (hb : b.IsReadable) (hw : b.Writes w)
    (hf : b.explicitKey = false → b.key = fallback) :
    PluralBlock.read fallback w = .ok b ↔
      ¬ (b.IsLabelled ∧ ∃ f ∈ b.forms, Text.startsBlank f.chars = true) := by
  obtain ⟨s, hs, rfl⟩ := hw
  rcases hb.exists_spelling hs with ⟨hl, h⟩ | ⟨hl, h⟩
  · rw [hb.read_eq_ok_iff_of_spelling h hf]
    constructor
    · rintro hread ⟨-, f, hfm, hblank⟩
      -- the elements that are left of the form are written without a leading blank
      have hstart := (FormElement.respelled_of_readAll (hread f hfm)).startsBlank_eq
      rw [Text.startsBlank_trimLeft] at hstart
      exact absurd (hstart.trans hblank) (by decide)
    · intro hn f hfm
      have hblank : Text.startsBlank f.chars = false := by
        by_contra hc
        exact hn ⟨hl, f, hfm, by simpa using hc⟩
      rw [Text.trimLeft_of_not_startsBlank hblank]
      exact hb.readAll hfm
  · rw [hb.read_eq_ok_iff_of_spelling h hf]
    exact iff_of_true (fun f => hb.readAll) fun hn => hl hn.1

end IsReadable

end PluralBlock

end Phrasebook
