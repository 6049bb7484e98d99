/-
# Templates that are written faithfully

A template that an application builds itself is canonical if its texts are nonempty and
apart, its keys, types and formatters can be written, and its blocks are bound to the
arguments around them (`Template.IsCanonical`). In such a template every brace belongs to a
placeholder, so no block is closed before its end, and whichever spelling is taken for a
block is read back. Reading undoes writing (`serialize`) on canonical templates
(`Template.IsCanonical.exists_source`).
-/

import Phrasebook.Proofs.Written
import Mathlib.Data.List.Chain

namespace Phrasebook

variable {t p : List Char} {d : Nat} {ps : Template} {b : PluralBlock}
variable {f : PluralForm} {elements : List FormElement}
variable {segments : List (Segment TemplatePlaceholder)}

/-- Whether an element is literal text. -/
def FormElement.isText : FormElement → Bool
  | .text _ => true
  | _ => false

/-- Whether a part is literal text. -/
def Part.isText : Part → Bool
  | .text _ => true
  | _ => false

/-- An element that is written so that it is read back: text without braces, bars and numbers
that are too long, or an argument that can be written. -/
def FormElement.IsCanonical : FormElement → Prop
  | .text s => s ≠ "" ∧ (∀ c ∈ s.toList, c ≠ '{' ∧ c ≠ '}' ∧ c ≠ '|') ∧
      ∀ r, r <:+: s.toList → r.all Text.isAsciiDigit = true → r.length ≤ ArgumentKey.maxIndexDigits
  | .argument a => a.IsWritable
  | .value => True

/-- A form that is written so that it is read back. -/
structure PluralForm.IsCanonical (f : PluralForm) : Prop where
  elements : ∀ e ∈ f.elements, e.IsCanonical
  separate : f.elements.IsChain fun e e' => ¬ (e.isText = true ∧ e'.isText = true)
  start {s : String} {rest : List FormElement} : f.elements = .text s :: rest →
    Text.startsBlank s.toList = false

/-- A block that is written so that it is read back. -/
structure PluralBlock.IsCanonical (b : PluralBlock) : Prop where
  forms_ne_nil : b.forms ≠ []
  forms : ∀ f ∈ b.forms, f.IsCanonical
  key : b.key.IsWritable

/-- A part that is written so that it is read back. -/
def Part.IsCanonical : Part → Prop
  | .text s => s ≠ "" ∧ '{' ∉ s.toList
  | .argument a => a.IsWritable
  | .plural b => b.IsCanonical

/-- A template that is written so that it is read back: a block without a key of its own has the
key of the nearest argument before it, else of the first argument, else position 0. -/
structure Template.IsCanonical (ps : Template) : Prop where
  parts : ∀ part ∈ ps, part.IsCanonical
  separate : ps.IsChain fun part part' => ¬ (part.isText = true ∧ part'.isText = true)
  bound {before after : Template} {b : PluralBlock} : ps = before ++ .plural b :: after →
    b.explicitKey = false →
      b.key = (argumentKeys before).getLastD ((argumentKeys ps).headD (.positional 0))

namespace FormElement

/-- What is written for an element is its text, or stands between braces. -/
theorem IsCanonical.eq_text_or_braces {e : FormElement} (h : e.IsCanonical) :
    (∃ s, e = .text s) ∨
      (e.isText = false ∧ ∃ x, BraceFree x ∧ e.chars = '{' :: (x ++ ['}'])) := by
  cases e with
  | text s => exact .inl ⟨s, rfl⟩
  | argument a =>
    have hw : a.IsWritable := h
    exact .inr ⟨rfl, a.content, hw.braceFree_content, a.chars_eq⟩
  | value => exact .inr ⟨rfl, ['?'], .cons (by decide) (by decide) .nil, rfl⟩

/-- Canonical text has no braces. -/
theorem IsCanonical.braceFree {s : String} (h : (text s).IsCanonical) : BraceFree s.toList :=
  fun c hc => ⟨(h.2.1 c hc).1, (h.2.1 c hc).2.1⟩

/-- An element that is written so that it is read back closes no block. -/
theorem IsCanonical.closes_append_iff {e : FormElement} (h : e.IsCanonical) :
    Closes d (e.chars ++ t) ↔ Closes d t := by
  rcases h.eq_text_or_braces with ⟨s, rfl⟩ | ⟨-, x, hx, he⟩
  · exact h.braceFree.closes_append_iff
  · rw [he, List.cons_append, List.append_assoc]
    exact hx.closes_braces_iff

/-- A canonical element closes the braces that it opens, and has no bar outside them. -/
theorem IsCanonical.isPiece {e : FormElement} (h : e.IsCanonical) : IsPiece e.chars := by
  rcases h.eq_text_or_braces with ⟨s, rfl⟩ | ⟨-, x, hx, he⟩
  · exact .of_braceFree h.braceFree fun hc => (h.2.1 _ hc).2.2 rfl
  · rw [he]
    exact ⟨hx.braceDepth_braces [], (unbarred_braces_iff hx).2 unbarred_nil⟩

/-- So do canonical elements in a row. -/
theorem isPiece_flatMap (h : ∀ e ∈ elements, e.IsCanonical) : IsPiece (elements.flatMap chars) := by
  induction elements with
  | nil => exact .nil
  | cons e elements ih =>
    exact (h e (by simp)).isPiece.append (ih fun e' he' => h e' (.tail _ he'))

/-- Canonical elements change nothing about what closes a block behind them. -/
theorem closes_flatMap_append_iff (h : ∀ e ∈ elements, e.IsCanonical) :
    Closes d (elements.flatMap chars ++ t) ↔ Closes d t := by
  induction elements with
  | nil => rfl
  | cons e elements ih =>
    rw [List.flatMap_cons, List.append_assoc, (h e (by simp)).closes_append_iff]
    exact ih fun e' he' => h e' (.tail _ he')

/-- Behind a text comes nothing or a brace. -/
theorem flatMap_chars_eq_nil_or (h : ∀ e ∈ elements, e.IsCanonical)
    (hn : ∀ e ∈ elements.head?, e.isText = false) :
    elements.flatMap chars = [] ∨ ∃ r, elements.flatMap chars = '{' :: r := by
  cases elements with
  | nil => exact .inl rfl
  | cons e elements =>
    rcases (h e (by simp)).eq_text_or_braces with ⟨s, rfl⟩ | ⟨-, x, -, he⟩
    · have htext := hn (.text s) (by simp)
      cases htext
    · exact .inr ⟨_, by rw [List.flatMap_cons, he, List.cons_append]⟩

/-- **What is written for elements is scanned into them.** -/
theorem exists_segmentation (h : ∀ e ∈ elements, e.IsCanonical)
    (hsep : elements.IsChain fun e e' => ¬ (e.isText = true ∧ e'.isText = true)) :
    ∃ segments, Segment.Segmentation FormPlaceholder.opener (elements.flatMap chars) segments ∧
      segments.map ofSegment = elements := by
  induction elements with
  | nil => exact ⟨[], .nil, rfl⟩
  | cons e elements ih =>
    obtain ⟨hhead, hsep⟩ := List.isChain_cons.1 hsep
    obtain ⟨segments, hs, rfl⟩ := ih (fun e' he' => h e' (.tail _ he')) hsep
    have he := h e (by simp)
    rw [List.flatMap_cons]
    cases e with
    | text s =>
      have hne : s.toList ≠ [] := fun hn => he.1 (String.toList_eq_nil_iff.1 hn)
      have hstart : Segment.startsLiteral segments = false := by
        refine Segment.startsLiteral_eq_false ?_
        rintro l tail rfl
        exact hhead _ rfl ⟨rfl, rfl⟩
      exact ⟨.literal s.toList :: segments,
        .literal hne hstart (.of_not_mem fun hc => (he.2.1 _ hc).1 rfl) hs,
        by simp [ofSegment]⟩
    | argument a =>
      have hw : a.IsWritable := he
      refine ⟨.placeholder (.argument a) :: segments, ?_, rfl⟩
      rw [chars, a.chars_eq, List.cons_append, List.append_assoc]
      exact .placeholder (FormPlaceholder.read_argument hw _) hs
    | value =>
      have hread := FormPlaceholder.read_value ((segments.map ofSegment).flatMap chars)
      exact ⟨.placeholder .value :: segments, .placeholder hread hs, rfl⟩

end FormElement

namespace PluralForm.IsCanonical

/-- A canonical form is read as its elements. -/
theorem readAll (h : f.IsCanonical) : FormElement.readAll f.chars = .ok f.elements :=
  FormElement.readAll_eq_ok_iff.2 (FormElement.exists_segmentation h.elements h.separate)

/-- A form starts with the text that is its first element, up to its end or to a brace. -/
theorem exists_start (h : f.IsCanonical) :
    (∃ s rest, f.chars = s.toList ++ rest ∧ (FormElement.text s).IsCanonical ∧
      Text.startsBlank s.toList = false ∧ (rest = [] ∨ ∃ r, rest = '{' :: r)) ∨
        f.chars = [] ∨ ∃ r, f.chars = '{' :: r := by
  have helements := h.elements
  have hsep := h.separate
  cases he : f.elements with
  | nil => exact .inr (.inl (by rw [PluralForm.chars, he, List.flatMap_nil]))
  | cons e elements =>
    rw [he] at helements hsep
    rcases (helements e (by simp)).eq_text_or_braces with ⟨s, rfl⟩ | ⟨ht, -⟩
    · have hrest : ∀ e ∈ elements, e.IsCanonical := fun e he => helements e (.tail _ he)
      have hhead : ∀ e ∈ elements.head?, e.isText = false := fun e he => by
        simpa [FormElement.isText] using (List.isChain_cons.1 hsep).1 e he
      have hchars : f.chars = s.toList ++ elements.flatMap FormElement.chars := by
        rw [PluralForm.chars, he, List.flatMap_cons, FormElement.chars]
      exact .inl ⟨s, _, hchars, helements _ (by simp), h.start he,
        FormElement.flatMap_chars_eq_nil_or hrest hhead⟩
    · refine .inr ?_
      rw [PluralForm.chars, he]
      exact FormElement.flatMap_chars_eq_nil_or helements (by simpa using ht)

/-- A canonical form does not start with a blank. -/
theorem startsBlank_eq (h : f.IsCanonical) : Text.startsBlank f.chars = false := by
  rcases h.exists_start with ⟨s, rest, hs, hc, hblank, -⟩ | hs | ⟨r, hs⟩
  · obtain ⟨c, r, hr⟩ := List.exists_cons_of_ne_nil fun hn => hc.1 (String.toList_eq_nil_iff.1 hn)
    rw [hs, hr]
    rwa [hr] at hblank
  · rw [hs]
    rfl
  · rw [hs]
    exact (by decide : Text.isBlank '{' = false)

/-- No number in front of the first brace of a form is too long to be a key. -/
theorem length_run_le {r : List Char} (h : f.IsCanonical) (hp : p <+: f.chars) (hb : '{' ∉ p)
    (hr : r <:+: p) (hd : r.all Text.isAsciiDigit = true) :
    r.length ≤ ArgumentKey.maxIndexDigits := by
  have hempty (hp : p <+: []) : r.length ≤ ArgumentKey.maxIndexDigits := by
    obtain rfl := List.prefix_nil.1 hp
    obtain rfl := List.infix_nil.1 hr
    exact Nat.zero_le _
  rcases h.exists_start with ⟨s, rest, hs, hc, -, hrest⟩ | hs | ⟨t, hs⟩
  · rw [hs] at hp
    have hps : p <+: s.toList := by
      rcases hrest with rfl | ⟨t, rfl⟩
      · rwa [List.append_nil] at hp
      · exact Text.isPrefix_of_not_mem hb hp
    exact hc.2.2 r (hr.trans hps.isInfix) hd
  · exact hempty (hs ▸ hp)
  · rw [hs, ← List.nil_append ('{' :: t)] at hp
    exact hempty (Text.isPrefix_of_not_mem hb hp)

end PluralForm.IsCanonical

namespace PluralBlock.IsCanonical

/-- **A canonical block has forms that can be read,** and no brace outside them closes it. -/
theorem isReadable (h : b.IsCanonical) : b.IsReadable where
  forms_ne_nil := h.forms_ne_nil
  isPiece hf := FormElement.isPiece_flatMap (h.forms _ hf).elements
  readAll hf := (h.forms _ hf).readAll
  not_closes := by
    have hjoined (fs : List PluralForm) (hfs : ∀ f ∈ fs, f.IsCanonical) (t : List Char) :
        Closes 0 (Text.joined '|' (fs.map PluralForm.chars) ++ t) → Closes 0 t := by
      induction fs with
      | nil => exact id
      | cons f fs ih =>
        have hf (t : List Char) : Closes 0 (f.chars ++ t) ↔ Closes 0 t :=
          FormElement.closes_flatMap_append_iff (hfs f (by simp)).elements
        cases fs with
        | nil => exact (hf t).1
        | cons g fs =>
          intro hc
          rw [List.map_cons, Text.joined_cons (by simp), List.append_assoc] at hc
          have hbar := (hf _).1 hc
          rw [List.cons_append, closes_cons_of_ne (by decide)] at hbar
          exact ih (fun f hf => hfs f (.tail _ hf)) hbar
    intro hc
    obtain ⟨u, v, huv, -⟩ := hjoined b.forms h.forms ['}'] hc
    have := congrArg List.length huv
    simp only [List.length_cons, List.length_nil, List.length_append] at this
    omega
  key _ := h.key

/-- A canonical block does not start with a number that is too long for a key. -/
theorem not_hasOverlongStart (h : b.IsCanonical) : ¬ b.HasOverlongStart := by
  rintro ⟨-, -, e, he⟩
  obtain ⟨p, t, hj, hbar, hbrace, hread⟩ := keyPrefix_eq_error he
  obtain ⟨r, hr, hd, hl⟩ := ArgumentKey.exists_run_of_readMarked hread
  obtain ⟨f, forms, hf⟩ := List.exists_cons_of_ne_nil h.forms_ne_nil
  have hp : p <+: Text.joined '|' b.texts := hj ▸ List.prefix_append _ _
  have hpf : p <+: f.chars := by
    rw [PluralBlock.texts, hf, List.map_cons] at hp
    cases forms with
    | nil => exact hp
    | cons g forms =>
      rw [Text.joined_cons (by simp)] at hp
      exact Text.isPrefix_of_not_mem hbar hp
  have hle := (h.forms f (by simp [hf])).length_run_le hpf hbrace hr hd
  omega

end PluralBlock.IsCanonical

/-- **What is written for canonical parts is scanned into what was written.** -/
theorem Written.segmentation (hw : Written ps segments t) (h : ∀ part ∈ ps, part.IsCanonical)
    (hsep : ps.IsChain fun part part' => ¬ (part.isText = true ∧ part'.isText = true)) :
    Segment.Segmentation TemplatePlaceholder.opener t segments := by
  induction hw with
  | nil => exact .nil
  | @text ps segments t s hw ih =>
    obtain ⟨hhead, hsep⟩ := List.isChain_cons.1 hsep
    have hs := h (.text s) (by simp)
    have hne : s.toList ≠ [] := fun hn => hs.1 (String.toList_eq_nil_iff.1 hn)
    have hstart : Segment.startsLiteral segments = false := by
      cases hw with
      | text s' => exact absurd ⟨rfl, rfl⟩ (hhead _ rfl)
      | _ => rfl
    exact .literal hne hstart (.of_not_mem hs.2) (ih (fun part hp => h part (.tail _ hp)) hsep)
  | argument a _ ih =>
    have ha : a.IsWritable := h (.argument a) (by simp)
    exact .placeholder (TemplatePlaceholder.read_argument ha _)
      (ih (fun part hp => h part (.tail _ hp)) (List.isChain_cons.1 hsep).2)
  | @plural ps segments t b w hb _ ih =>
    have hc : b.IsCanonical := h (.plural b) (by simp)
    exact .placeholder (TemplatePlaceholder.read_plural (hc.isReadable.isPluralBody hb) _)
      (ih (fun part hp => h part (.tail _ hp)) (List.isChain_cons.1 hsep).2)

namespace Template.IsCanonical

/-- **Reading undoes writing:** a canonical template has a source, and is read back from it. -/
theorem exists_source (h : ps.IsCanonical) :
    ∃ source, ps.source = .ok source ∧ Template.parse source = .ok ps := by
  have hblock (b : PluralBlock) (hb : Part.plural b ∈ ps) : b.IsCanonical := h.parts _ hb
  obtain ⟨segments, t, hw⟩ := exists_written_iff.2 fun b hb =>
    PluralBlock.exists_writes_iff.2 (hblock b hb).not_hasOverlongStart
  have hseg := hw.segmentation h.parts h.separate
  have hbound : BoundTo (firstKey segments) ps := by
    rw [boundTo_iff, hw.firstKey_eq]
    exact fun before b after he => h.bound he
  have hback := (hw.bound_iff (fun b hb => (hblock b hb).isReadable) hbound).2 fun b hb => by
    rintro ⟨-, f, hf, hblank⟩
    rw [((hblock b hb).forms f hf).startsBlank_eq] at hblank
    cases hblank
  rw [← String.toList_ofList (l := t)] at hw hseg
  exact ⟨String.ofList t, source_eq_ok_iff.2 ⟨_, hw⟩, parse_eq_ok_iff.2 ⟨segments, hseg, hback⟩⟩

end Template.IsCanonical

namespace Template

/-- Parts whose forms look like labels and like keys, with a block in front of all arguments and a
block whose forms have the same category. -/
def basket : Template := [
  .plural { key := .named "n", forms := [⟨.one, [.text "one=a"]⟩, ⟨.other, [.text "k:", .value]⟩] },
  .text " \x7d in ",
  .argument {
    key := .named "n", typeTag := some "int", formatters := ["upper case"], optional := true },
  .plural {
    key := .positional 3
    forms := [⟨.few, [.argument { key := .named "x" }, .text "=b"]⟩, ⟨.few, []⟩]
    explicitKey := true }]

/-- The basket is canonical. -/
theorem isCanonical_basket : basket.IsCanonical where
  parts := by
    have hkey (name : String) (h : name = "n" ∨ name = "x") :
        (ArgumentKey.named name).IsWritable := by
      change ArgumentKey.isIdentifier name.toList = true
      rcases h with rfl | rfl <;> decide
    have hthree : (ArgumentKey.positional 3).IsWritable :=
      Nat.lt_of_lt_of_le (by decide : 3 < 10 ^ 1) (Nat.pow_le_pow_right (by decide) (by decide))
    have hfree (l : List Char) (h : (l.all fun c => c != '{' && c != '}' && c != '|') = true) :
        ∀ c ∈ l, c ≠ '{' ∧ c ≠ '}' ∧ c ≠ '|' := by
      simpa [and_assoc] using h
    have hword (w : String) (h : w = "int" ∨ w = "upper case") : IsWord w.toList := by
      have hw : ∀ c ∈ w.toList, c ≠ '{' ∧ c ≠ '}' ∧ c ≠ '|' := by
        rcases h with rfl | rfl <;> exact hfree _ (by decide)
      have hends : w.toList ≠ [] ∧ Text.trim w.toList = w.toList := by
        rcases h with rfl | rfl <;> decide
      exact ⟨hends.1, hends.2, fun c hc => ⟨(hw c hc).2.2, (hw c hc).1, (hw c hc).2.1⟩⟩
    have htext (s : String) (h : s = "one=a" ∨ s = "k:" ∨ s = "=b") :
        (FormElement.text s).IsCanonical := by
      rcases h with rfl | rfl | rfl <;>
        exact ⟨by decide, hfree _ (by decide), fun r hr _ => hr.length_le.trans (by decide)⟩
    have hx : ({ key := .named "x" } : Argument).IsWritable := ⟨hkey _ (.inr rfl), nofun, nofun⟩
    intro part hpart
    simp only [basket, List.mem_cons, List.not_mem_nil, or_false] at hpart
    rcases hpart with rfl | rfl | rfl | rfl
    · refine ⟨by simp, ?_, hkey _ (.inl rfl)⟩
      simp only [List.forall_mem_cons, List.not_mem_nil, false_imp_iff, implies_true, and_true]
      exact ⟨⟨by simpa using htext _ (.inl rfl), by decide, fun he => by cases he; decide⟩,
        ⟨by simpa using ⟨htext _ (.inr (.inl rfl)), trivial⟩, by decide,
          fun he => by cases he; decide⟩⟩
    · exact ⟨by decide, by decide⟩
    · exact ⟨hkey _ (.inl rfl), fun h => hword _ (.inl (Option.some.inj h).symm),
        fun h => hword _ (.inr (List.mem_singleton.1 h))⟩
    · refine ⟨by simp, ?_, hthree⟩
      simp only [List.forall_mem_cons, List.not_mem_nil, false_imp_iff, implies_true, and_true]
      exact ⟨⟨by simpa using ⟨hx, htext _ (.inr (.inr rfl))⟩, by decide, nofun⟩,
        ⟨nofun, by decide, nofun⟩⟩
  separate := by decide
  bound he := by
    have h : BoundTo (.named "n") basket := ⟨fun _ => rfl, nofun, trivial⟩
    exact boundTo_iff.1 h _ _ _ he

/-- The basket is written as a source text that reads as the basket. -/
theorem exists_source_basket :
    basket.IsCanonical ∧
      ∃ source, basket.source = .ok source ∧ Template.parse source = .ok basket :=
  ⟨isCanonical_basket, IsCanonical.exists_source isCanonical_basket⟩

end Template

end Phrasebook
