/-
# What stands in front of a text

A label (`parse_form_label`) is the name of a category and an equals sign, with any blanks around
them (`formLabel?_eq_some_iff`). The label of a form and the key of a block stand in front of a text
without braces and bars in between (`formLabel?_eq_some`, `keyPrefix_eq_some`). What is written for
them is read back (`formLabel?_name`, `keyPrefix_chars`), and nothing is read where it was not
written: a text without a colon and a text that starts with a label have no key.
-/

import Phrasebook.Proofs.Placeholder

namespace Phrasebook

variable {s t p r : List Char} {c : Char} {category : PluralCategory} {k : ArgumentKey}

/-- Blanks are no braces. -/
theorem braceFree_of_blank (h : ∀ x ∈ s, Text.isBlank x = true) : BraceFree s := by
  intro x hx
  have hb := h x hx
  constructor <;> rintro rfl <;> exact absurd hb (by decide)

/-- The name of a category is written in letters. -/
theorem PluralCategory.isNameChar_of_mem_name (h : c ∈ category.name.toList) :
    ArgumentKey.isNameChar c = true := by
  have hall : category.name.toList.all ArgumentKey.isNameChar = true := by
    cases category <;> decide
  exact List.all_eq_true.1 hall c h

/-- The names of categories have no braces. -/
theorem PluralCategory.braceFree_name (category : PluralCategory) :
    BraceFree category.name.toList := fun _ h =>
  ⟨ArgumentKey.ne_of_isNameChar (isNameChar_of_mem_name h) (by decide),
    ArgumentKey.ne_of_isNameChar (isNameChar_of_mem_name h) (by decide)⟩

/-- What stands in front of a labelled form has no braces. -/
theorem PluralCategory.braceFree_label (category : PluralCategory) :
    BraceFree (category.name.toList ++ ['=']) :=
  category.braceFree_name.append (.cons (by decide) (by decide) .nil)

/-- A form with its label is the name of its category, an equals sign and its text. -/
theorem PluralForm.labelledChars_eq (f : PluralForm) :
    f.labelledChars = (f.category.name.toList ++ ['=']) ++ f.chars := by
  rw [labelledChars, List.append_assoc, List.singleton_append]

/-- Whether a text starts with the label of a category and goes on with `r`: the name of the
category and an equals sign, with any blanks around them. -/
def LabelledAs (s : List Char) (category : PluralCategory) (r : List Char) : Prop :=
  ∃ b₁ b₂ b₃, (∀ x ∈ b₁ ++ b₂ ++ b₃, Text.isBlank x = true) ∧ Text.startsBlank r = false ∧
    s = b₁ ++ category.name.toList ++ b₂ ++ '=' :: (b₃ ++ r)

/-- **A label is read back.** -/
theorem formLabel?_append (category : PluralCategory) (ht : Text.trimLeft t = '=' :: r) :
    formLabel? (category.name.toList ++ t) = some (category, Text.trimLeft r) := by
  have hstart (c : Char) (hc : Text.isBlank c = false) (w : List Char) :
      Text.trimLeft (c :: w) = c :: w := Text.trimLeft_cons hc
  cases category <;>
    simp [formLabel?, PluralCategory.all, PluralCategory.name, Text.after?, ht,
      hstart 'z' (by decide), hstart 'o' (by decide), hstart 't' (by decide),
      hstart 'f' (by decide), hstart 'm' (by decide)]

/-- A text behind the name of a category and an equals sign is labelled with this category. -/
theorem formLabel?_name (category : PluralCategory) (t : List Char) :
    formLabel? (category.name.toList ++ '=' :: t) = some (category, Text.trimLeft t) :=
  formLabel?_append category (Text.trimLeft_cons (by decide))

/-- **A text has the label that is read exactly if it starts with it.** -/
theorem formLabel?_eq_some_iff : formLabel? s = some (category, r) ↔ LabelledAs s category r := by
  constructor
  · intro h
    obtain ⟨c, -, hc⟩ := List.exists_of_findSome?_eq_some h
    split at hc
    · cases hc
    · rename_i t ht
      split at hc
      · rename_i rest hrest
        obtain ⟨rfl, rfl⟩ := Prod.mk.inj (Option.some.inj hc)
        obtain ⟨b₁, hb₁, h₁⟩ := Text.exists_append_trimLeft s
        obtain ⟨b₂, hb₂, h₂⟩ := Text.exists_append_trimLeft t
        obtain ⟨b₃, hb₃, h₃⟩ := Text.exists_append_trimLeft rest
        refine ⟨b₁, b₂, b₃, ?_, Text.startsBlank_trimLeft rest, ?_⟩
        · simp only [List.forall_mem_append]
          exact ⟨⟨hb₁, hb₂⟩, hb₃⟩
        · calc s = b₁ ++ Text.trimLeft s := h₁
            _ = b₁ ++ (c.name.toList ++ t) := by rw [Text.after?_eq_some ht]
            _ = b₁ ++ (c.name.toList ++ (b₂ ++ '=' :: rest)) := by rw [← hrest, ← h₂]
            _ = b₁ ++ (c.name.toList ++ (b₂ ++ '=' :: (b₃ ++ Text.trimLeft rest))) := by rw [← h₃]
            _ = _ := by simp
      · cases hc
  · rintro ⟨b₁, b₂, b₃, hb, hr, rfl⟩
    simp only [List.forall_mem_append] at hb
    obtain ⟨⟨hb₁, hb₂⟩, hb₃⟩ := hb
    have hequals : Text.trimLeft (b₂ ++ '=' :: (b₃ ++ r)) = '=' :: (b₃ ++ r) := by
      rw [Text.trimLeft_append hb₂, Text.trimLeft_cons (by decide)]
    have hrest : Text.trimLeft (b₃ ++ r) = r := by
      rw [Text.trimLeft_append hb₃, Text.trimLeft_of_not_startsBlank hr]
    have hblanks (w : List Char) : formLabel? (b₁ ++ w) = formLabel? w := by
      rw [formLabel?, formLabel?, Text.trimLeft_append hb₁]
    rw [List.append_assoc, List.append_assoc, hblanks, formLabel?_append category hequals, hrest]

/-- **A label is text without braces and bars, and what is left does not start with a blank.** -/
theorem formLabel?_eq_some (h : formLabel? s = some (category, r)) :
    Text.startsBlank r = false ∧ ∃ x, BraceFree x ∧ '|' ∉ x ∧ s = x ++ r := by
  obtain ⟨b₁, b₂, b₃, hb, hr, rfl⟩ := formLabel?_eq_some_iff.1 h
  simp only [List.forall_mem_append] at hb
  obtain ⟨⟨hb₁, hb₂⟩, hb₃⟩ := hb
  have hbar {b : List Char} (hb : ∀ x ∈ b, Text.isBlank x = true) : '|' ∉ b := fun hx =>
    absurd (hb '|' hx) (by decide)
  have hname : '|' ∉ category.name.toList := fun hx =>
    absurd (PluralCategory.isNameChar_of_mem_name hx) (by decide)
  refine ⟨hr, b₁ ++ category.name.toList ++ b₂ ++ '=' :: b₃, ?_, ?_, ?_⟩
  · exact (((braceFree_of_blank hb₁).append category.braceFree_name).append
      (braceFree_of_blank hb₂)).append (.cons (by decide) (by decide) (braceFree_of_blank hb₃))
  · simp [hbar hb₁, hbar hb₂, hbar hb₃, hname]
  · simp

/-- Without a colon no key is named. -/
theorem keyPrefix_of_not_mem (h : ':' ∉ s) : keyPrefix s = .ok none := by
  rw [keyPrefix, Text.cut_of_not_mem h]

/-- The text before the first colon is read as a key. -/
theorem keyPrefix_append (hp : ∀ x ∈ p, x ≠ ':' ∧ x ≠ '|' ∧ x ≠ '{') (t : List Char) :
    keyPrefix (p ++ ':' :: t) = (ArgumentKey.readMarked p).map (·.map fun k => (k.1, t)) := by
  have hcolon : ':' ∉ p := fun hx => (hp _ hx).1 rfl
  have hbar : '|' ∉ p := fun hx => (hp _ hx).2.1 rfl
  have hbrace : '{' ∉ p := fun hx => (hp _ hx).2.2 rfl
  simp [keyPrefix, Text.cut_append_cons hcolon, hbar, hbrace]

/-- **A key in front of a colon is read back.** -/
theorem keyPrefix_chars (hk : k.IsWritable) (t : List Char) :
    keyPrefix (k.chars ++ ':' :: t) = .ok (some (k, t)) := by
  have hread := hk.readMarked_chars false
  rw [if_neg (by decide), List.append_nil] at hread
  rw [keyPrefix_append, hread]
  · rfl
  · intro x hx
    have hx := hk.isNameChar hx
    exact ⟨ArgumentKey.ne_of_isNameChar hx (by decide), ArgumentKey.ne_of_isNameChar hx (by decide),
      ArgumentKey.ne_of_isNameChar hx (by decide)⟩

/-- A key is writable, and stands before the first colon, bar and opening brace. -/
theorem keyPrefix_eq_some (h : keyPrefix s = .ok (some (k, t))) :
    k.IsWritable ∧ ∃ p opt, ArgumentKey.readMarked p = .ok (some (k, opt)) ∧
      (∀ x ∈ p, x ≠ ':' ∧ x ≠ '|' ∧ x ≠ '{') ∧ BraceFree p ∧ s = p ++ ':' :: t := by
  unfold keyPrefix at h
  split at h
  · cases h
  · rename_i p rest hcut
    obtain ⟨rfl, -⟩ := Text.cut_eq_some hcut
    split at h
    · cases h
    · obtain ⟨o, ho, hm⟩ := map_eq_ok_iff.1 h
      obtain ⟨⟨k', opt⟩, rfl, he⟩ := Option.map_eq_some_iff.1 hm
      obtain ⟨rfl, rfl⟩ := Prod.mk.inj he
      have hchars (x : Char) (hx : x ∈ p) := ArgumentKey.chars_of_readMarked (by simp [ho]) hx
      have hne {y : Char} (hy : Text.isBlank y = false) (hq : y ≠ '?')
          (hn : ArgumentKey.isNameChar y = false) (x : Char) (hx : x ∈ p) : x ≠ y := by
        rintro rfl
        rcases hchars x hx with hb | rfl | hn'
        · simp [hb] at hy
        · exact hq rfl
        · simp [hn'] at hn
      have hopen := hne (y := '{') (by decide) (by decide) (by decide)
      have hclose := hne (y := '}') (by decide) (by decide) (by decide)
      have hcolon := hne (y := ':') (by decide) (by decide) (by decide)
      have hbar := hne (y := '|') (by decide) (by decide) (by decide)
      refine ⟨ArgumentKey.isWritable_of_readMarked ho, p, opt, ho, fun x hx => ?_,
        fun x hx => ?_, rfl⟩
      · exact ⟨hcolon x hx, hbar x hx, hopen x hx⟩
      · exact ⟨hopen x hx, hclose x hx⟩

/-- A key that cannot be read stands in front of a colon, with no bar and no opening brace before
it. -/
theorem keyPrefix_eq_error {e : ParseError} (h : keyPrefix s = .error e) :
    ∃ p t, s = p ++ ':' :: t ∧ '|' ∉ p ∧ '{' ∉ p ∧ ArgumentKey.readMarked p = .error e := by
  unfold keyPrefix at h
  split at h
  · cases h
  · rename_i p t hcut
    obtain ⟨rfl, -⟩ := Text.cut_eq_some hcut
    split at h
    · cases h
    · rename_i hfree
      simp only [Bool.or_eq_true, List.contains_iff_mem, not_or] at hfree
      exact ⟨p, t, rfl, hfree.1, hfree.2, map_eq_error_iff.1 h⟩

/-- No key reaches over a character that does not belong to keys. -/
theorem keyPrefix_of_mark (hp : ':' ∉ p) (hc : c ≠ ':') (hb : Text.isBlank c = false) (hq : c ≠ '?')
    (hn : ArgumentKey.isNameChar c = false) (t : List Char) :
    keyPrefix (p ++ c :: t) = .ok none := by
  have hmem : c ∈ p ++ c :: (Text.cut ':' t).1 := by simp
  have hnone : ArgumentKey.readMarked (p ++ c :: (Text.cut ':' t).1) = .ok none := by
    by_contra hne
    rcases ArgumentKey.chars_of_readMarked hne hmem with h | h | h
    · simp [hb] at h
    · exact hq h
    · simp [hn] at h
  simp only [keyPrefix, Text.cut_append hp, Text.cut, if_neg hc]
  cases (Text.cut ':' t).2 with
  | none => rfl
  | some rest =>
    simp only [hnone, map_ok, Option.map_none]
    split <;> rfl

/-- A text that starts with a label starts with no key. -/
theorem keyPrefix_name (category : PluralCategory) (t : List Char) :
    keyPrefix (category.name.toList ++ '=' :: t) = .ok none :=
  keyPrefix_of_mark (fun h => absurd (PluralCategory.isNameChar_of_mem_name h) (by decide))
    (by decide) (by decide) (by decide) (by decide) t

end Phrasebook
