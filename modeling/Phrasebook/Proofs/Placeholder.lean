/-
# Reading back what is written between braces

What is written for an argument (`_serialize_argument`) is read again
(`parse_argument_content`) if its key, its type and its formatter names can stand there. A
key that a template can show is a position of at most 4300 digits or an identifier; a type
and a formatter name are words, that is nonempty texts without blanks at their ends and
without bars and braces. `Argument.IsWritable` asks this of an argument. Whatever is read
from a content without braces is writable (`Argument.isWritable_of_read`), and a writable
argument is read back from the content that is written for it (`Argument.read_content`).
-/

import Phrasebook.Proofs.Braces
import Phrasebook.Proofs.Outcome
import Phrasebook.Proofs.Text.Cutting
import Phrasebook.Proofs.Text.Numeral
import Phrasebook.Proofs.Text.Trimming
import Phrasebook.Template.Printer

namespace Phrasebook

variable {s t c : List Char} {x : Char}

/-- A word: a nonempty text without blanks at its ends and without bars and braces. -/
structure IsWord (s : List Char) : Prop where
  ne_nil : s ≠ []
  trim_eq : Text.trim s = s
  free : ∀ x ∈ s, x ≠ '|' ∧ x ≠ '{' ∧ x ≠ '}'

namespace ArgumentKey

variable {k : ArgumentKey} {opt : Bool}

/-- Whether a key can be written so that it is read back. -/
def IsWritable : ArgumentKey → Prop
  | .positional i => i < 10 ^ maxIndexDigits
  | .named name => isIdentifier name.toList = true

/-- Letters are those of ASCII, by their code points. -/
theorem isAlpha_iff : x.isAlpha = true ↔
    (65 ≤ x.toNat ∧ x.toNat ≤ 90) ∨ (97 ≤ x.toNat ∧ x.toNat ≤ 122) := by
  simp only [Char.isAlpha, Char.isUpper, Char.isLower, Bool.or_eq_true, Bool.and_eq_true,
    decide_eq_true_eq]
  exact Iff.rfl

/-- The characters of names are the digits, the letters and the low line. -/
theorem isNameChar_iff : isNameChar x = true ↔
    (48 ≤ x.toNat ∧ x.toNat ≤ 57) ∨ (65 ≤ x.toNat ∧ x.toNat ≤ 90) ∨ x.toNat = 95 ∨
      (97 ≤ x.toNat ∧ x.toNat ≤ 122) := by
  have h95 : x = '_' ↔ x.toNat = 95 := ⟨fun h => h ▸ rfl, fun h => Char.toNat_inj.1 h⟩
  simp only [isNameChar, Char.isAlphanum, Bool.or_eq_true, isAlpha_iff, beq_iff_eq, h95,
    ← Text.isAsciiDigit_eq_isDigit, Text.isAsciiDigit_iff]
  omega

/-- A digit may stand in a name. -/
theorem isNameChar_of_isAsciiDigit (h : Text.isAsciiDigit x = true) : isNameChar x = true :=
  isNameChar_iff.2 (.inl (Text.isAsciiDigit_iff.1 h))

/-- What starts a name may stand in it. -/
theorem isNameChar_of_isNameStart (h : isNameStart x = true) : isNameChar x = true := by
  simp only [isNameStart, isNameChar, Char.isAlphanum, Bool.or_eq_true] at h ⊢
  tauto

/-- No blank stands in a name. -/
theorem isBlank_of_isNameChar (h : isNameChar x = true) : Text.isBlank x = false := by
  have hx := isNameChar_iff.1 h
  rw [Bool.eq_false_iff, ne_eq, Text.isBlank, Text.inRanges_eq_true]
  rintro ⟨r, hr, hle⟩
  simp only [Text.blankRanges, List.mem_cons, List.not_mem_nil, or_false] at hr
  rcases hr with rfl | rfl | rfl | rfl | rfl | rfl | rfl | rfl | rfl | rfl <;> omega

/-- A character of a name is none of the others. -/
theorem ne_of_isNameChar {y : Char} (h : isNameChar x = true) (hy : isNameChar y = false) :
    x ≠ y := by
  rintro rfl
  rw [h] at hy
  cases hy

/-- An identifier starts with no digit. -/
theorem isIdentifier_cons (h : isIdentifier s = true) :
    ∃ y r, s = y :: r ∧ Text.isAsciiDigit y = false ∧ ∀ x ∈ s, isNameChar x = true := by
  cases s with
  | nil => cases h
  | cons y r =>
    simp only [isIdentifier, Bool.and_eq_true, List.all_eq_true] at h
    refine ⟨y, r, rfl, ?_, fun x hx => ?_⟩
    · have hs := h.1
      rw [Bool.eq_false_iff, ne_eq, Text.isAsciiDigit_iff]
      simp only [isNameStart, Bool.or_eq_true, isAlpha_iff, beq_iff_eq] at hs
      rcases hs with hs | rfl
      · omega
      · decide
    · rcases List.mem_cons.1 hx with rfl | hx
      · exact isNameChar_of_isNameStart h.1
      · exact h.2 x hx

/-- The characters of a writable key are letters, digits and underscores. -/
theorem IsWritable.isNameChar (hk : k.IsWritable) (h : x ∈ k.chars) : isNameChar x = true := by
  cases k with
  | positional i => exact isNameChar_of_isAsciiDigit (Text.isAsciiDigit_of_mem_numeral h)
  | named name =>
    obtain ⟨_, _, _, _, hs⟩ := isIdentifier_cons hk
    exact hs x h

/-- A key that can be written has only characters of names. -/
theorem IsWritable.not_mem (hk : k.IsWritable) (hx : ArgumentKey.isNameChar x = false) :
    x ∉ k.chars := fun h => ne_of_isNameChar (hk.isNameChar h) hx rfl

/-- A key that can be written has no braces. -/
theorem IsWritable.braceFree (hk : k.IsWritable) : BraceFree k.chars := fun _ h =>
  ⟨ne_of_isNameChar (hk.isNameChar h) (by decide), ne_of_isNameChar (hk.isNameChar h) (by decide)⟩

/-- **A writable key is read back.** -/
theorem IsWritable.read_chars (hk : k.IsWritable) : read k.chars = .ok (some k) := by
  cases k with
  | positional i =>
    have hd : (Text.numeral i).all Text.isAsciiDigit = true :=
      List.all_eq_true.2 fun x hx => Text.isAsciiDigit_of_mem_numeral hx
    have hl : (Text.numeral i).length ≤ maxIndexDigits :=
      (Text.length_numeral_le_iff (by decide)).2 hk
    rw [chars, read, if_neg (Text.numeral_ne_nil i), if_pos hd, if_pos hl, Text.asciiValue_numeral]
  | named name =>
    obtain ⟨y, r, hs, hy, -⟩ := isIdentifier_cons hk
    have hd : name.toList.all Text.isAsciiDigit = false := by simp [hs, hy]
    have hn : name.toList ≠ [] := by simp [hs]
    have hi : isIdentifier name.toList = true := hk
    rw [chars, read, if_neg hn, if_neg (by simp [hd]), if_pos hi, String.ofList_toList]

/-- A key that can be written is not empty. -/
theorem IsWritable.chars_ne_nil (hk : k.IsWritable) : k.chars ≠ [] := by
  intro h
  have hread := hk.read_chars
  rw [h, read_nil] at hread
  cases hread

/-- What is read as a key is writable. -/
theorem isWritable_of_read (h : read s = .ok (some k)) : k.IsWritable := by
  unfold read at h
  split at h
  · cases h
  · split at h
    · rename_i hd
      split at h
      · rename_i hl
        obtain rfl := Option.some.inj (Except.ok.inj h)
        exact Nat.lt_of_lt_of_le (Text.asciiValue_lt hd) (Nat.pow_le_pow_right (by omega) hl)
      · cases h
    · split at h
      · rename_i hi
        obtain rfl := Option.some.inj (Except.ok.inj h)
        change isIdentifier (String.ofList s).toList = true
        rwa [String.toList_ofList]
      · cases h

/-- What is not refused as a key has letters, digits and underscores only. -/
theorem isNameChar_of_read (h : read s ≠ .ok none) (hx : x ∈ s) : isNameChar x = true := by
  unfold read at h
  split at h
  · exact absurd rfl h
  · split at h
    · rename_i hd
      exact isNameChar_of_isAsciiDigit (List.all_eq_true.1 hd x hx)
    · split at h
      · rename_i hi
        obtain ⟨_, _, _, _, hs⟩ := isIdentifier_cons hi
        exact hs x hx
      · exact absurd rfl h

/-- A key that cannot be read is a number with too many digits. -/
theorem digits_of_read {e : ParseError} (h : read s = .error e) :
    s.all Text.isAsciiDigit = true ∧ maxIndexDigits < s.length := by
  unfold read at h
  split at h
  · cases h
  · split at h
    · rename_i hd
      split at h
      · cases h
      · rename_i hl
        exact ⟨hd, Nat.lt_of_not_le hl⟩
    · split at h <;> cases h

/-- **A writable key is read back, with its mark or without.** -/
theorem IsWritable.readMarked_chars (hk : k.IsWritable) (opt : Bool) :
    readMarked (k.chars ++ if opt then ['?'] else []) = .ok (some (k, opt)) := by
  have hblank (x : Char) (hx : x ∈ k.chars) : Text.isBlank x = false :=
    isBlank_of_isNameChar (hk.isNameChar hx)
  cases opt with
  | true =>
    have ht : Text.trim (k.chars ++ ['?']) = k.chars ++ ['?'] := by
      refine Text.trim_eq_self fun x hx => ?_
      rcases List.mem_append.1 hx with hx | hx
      · exact hblank x hx
      · obtain rfl := List.mem_singleton.1 hx
        decide
    simp [readMarked, ht, Text.trimRight_eq_self hblank, hk.read_chars]
  | false =>
    have hq : k.chars.getLast? ≠ some '?' := fun h =>
      hk.not_mem (by decide) (List.mem_of_getLast? h)
    simp [readMarked, Text.trim_eq_self hblank, hq, hk.read_chars]

/-- A key that has been read can be written. -/
theorem isWritable_of_readMarked (h : readMarked s = .ok (some (k, opt))) : k.IsWritable := by
  obtain ⟨o, ho, hm⟩ := map_eq_ok_iff.1 h
  obtain ⟨k', rfl, he⟩ := Option.map_eq_some_iff.1 hm
  obtain ⟨rfl, -⟩ := Prod.mk.inj he
  exact isWritable_of_read ho

/-- A text without the blanks around it, its mark, and the blanks before the mark. -/
def unmarked (s : List Char) : List Char :=
  if (Text.trim s).getLast? == some '?' then Text.trimRight (Text.trim s).dropLast else Text.trim s

/-- A key with a mark is read from the text without the mark. -/
theorem readMarked_eq (s : List Char) :
    readMarked s = (read (unmarked s)).map (·.map (·, (Text.trim s).getLast? == some '?')) := rfl

/-- What is left without the mark is a part of the text. -/
theorem unmarked_isInfix (s : List Char) : unmarked s <:+: s := by
  refine List.IsInfix.trans ?_ (Text.trim_isInfix s)
  unfold unmarked
  split
  · exact ((List.rdropWhile_prefix _ _).trans (List.dropLast_prefix _)).isInfix
  · exact List.infix_rfl

/-- Nothing is taken away but blanks and question marks. -/
theorem mem_unmarked (h : x ∈ s) (hb : Text.isBlank x = false) (hq : x ≠ '?') : x ∈ unmarked s := by
  have ht := Text.mem_trim h hb
  unfold unmarked
  split
  · rename_i hlast
    have hdrop : Text.trim s = (Text.trim s).dropLast ++ ['?'] := by
      have hne : Text.trim s ≠ [] := List.ne_nil_of_mem ht
      have hl : (Text.trim s).getLast hne = '?' := by
        simpa [List.getLast?_eq_getLast_of_ne_nil hne] using hlast
      rw [← hl, List.dropLast_concat_getLast]
    rw [hdrop] at ht
    rcases List.mem_append.1 ht with ht | ht
    · exact Text.mem_trimRight ht hb
    · exact absurd (List.mem_singleton.1 ht) hq
  · exact ht

/-- What is not refused as a key with a mark has blanks, question marks, letters, digits and
underscores only. -/
theorem chars_of_readMarked (h : readMarked s ≠ .ok none) (hx : x ∈ s) :
    Text.isBlank x = true ∨ x = '?' ∨ isNameChar x = true := by
  by_contra hn
  simp only [not_or, Bool.not_eq_true] at hn
  obtain ⟨hb, hq, hname⟩ := hn
  have hread : read (unmarked s) = .ok none := by
    by_contra hne
    rw [isNameChar_of_read hne (mem_unmarked hx hb hq)] at hname
    cases hname
  refine h ?_
  rw [readMarked_eq, hread]
  rfl

/-- A text is refused as too long only for a run of digits that is too long. -/
theorem exists_run_of_readMarked {e : ParseError} (h : readMarked s = .error e) :
    ∃ r, r <:+: s ∧ r.all Text.isAsciiDigit = true ∧ maxIndexDigits < r.length := by
  have hread := map_eq_error_iff.1 h
  exact ⟨unmarked s, unmarked_isInfix s, digits_of_read hread⟩

end ArgumentKey

namespace Argument

variable {a : Argument}

/-- Whether an argument can be written so that it is read back. -/
structure IsWritable (a : Argument) : Prop where
  key : a.key.IsWritable
  typeTag {tag : String} : a.typeTag = some tag → IsWord tag.toList
  formatters {name : String} : name ∈ a.formatters → IsWord name.toList

/-- The type of an argument as it is written. -/
def typeChars (a : Argument) : List Char :=
  match a.typeTag with
  | some tag => if tag = "" then [] else ':' :: tag.toList
  | none => []

/-- What is written between the braces of an argument. -/
def content (a : Argument) : List Char :=
  (a.key.chars ++ (if a.optional then ['?'] else []) ++ a.typeChars) ++
    (a.formatters.map String.toList).flatMap ('|' :: ·)

/-- An argument is written as its content in braces. -/
theorem chars_eq (a : Argument) : a.chars = '{' :: (a.content ++ ['}']) := by
  obtain ⟨key, typeTag, formatters, optional⟩ := a
  cases typeTag <;> simp [chars, content, typeChars, List.flatMap_map]

/-- The type that is written for an argument is read as its type. -/
theorem typeTag?_typeChars (h : ∀ {tag : String}, a.typeTag = some tag → IsWord tag.toList) :
    (a.typeChars = [] ∧ a.typeTag = none) ∨
      ∃ t, a.typeChars = ':' :: t ∧ IsWord t ∧ typeTag? (some t) = a.typeTag := by
  unfold typeChars
  cases ht : a.typeTag with
  | none => exact .inl ⟨rfl, rfl⟩
  | some tag =>
    have hw := h ht
    have hne : tag ≠ "" := fun he => hw.ne_nil (by simp [he])
    have hcut : typeTag? (some tag.toList) = some tag := by
      simp only [typeTag?, hw.trim_eq, if_neg hw.ne_nil, String.ofList_toList]
    exact .inr ⟨tag.toList, by simp [hne], hw, hcut⟩

/-- Words are read as the formatter names that they are. -/
theorem formatterNames_map {names : List String} (h : ∀ name ∈ names, IsWord name.toList) :
    formatterNames (names.map String.toList) = names := by
  induction names with
  | nil => rfl
  | cons name names ih =>
    have hw := h name (by simp)
    have hcons : formatterNames ((name :: names).map String.toList) =
        name :: formatterNames (names.map String.toList) := by
      simp [formatterNames, hw.trim_eq, hw.ne_nil]
    rw [hcons, ih fun n hn => h n (by simp [hn])]

/-- The content of an argument that can be written has no braces. -/
theorem IsWritable.braceFree_content (h : a.IsWritable) : BraceFree a.content := by
  have hword {w : List Char} (hw : IsWord w) : BraceFree w := fun x hx => (hw.free x hx).2
  have ht : BraceFree a.typeChars := by
    rcases typeTag?_typeChars h.typeTag with ⟨ht, -⟩ | ⟨t, ht, hw, -⟩
    · simp [ht]
    · rw [ht]
      exact .cons (by decide) (by decide) (hword hw)
  have ho : BraceFree (if a.optional then ['?'] else []) := by
    split
    · exact .cons (by decide) (by decide) .nil
    · exact .nil
  refine ((h.key.braceFree.append ho).append ht).append fun x hx => ?_
  obtain ⟨w, hw, hx⟩ := List.mem_flatMap.1 hx
  obtain ⟨name, hname, rfl⟩ := List.mem_map.1 hw
  rcases List.mem_cons.1 hx with rfl | hx
  · decide
  · exact hword (h.formatters hname) x hx

/-- No argument is written like the place of the driving value. -/
theorem IsWritable.trim_content_ne (h : a.IsWritable) : Text.trim a.content ≠ ['?'] := by
  intro ht
  obtain ⟨x, k, hk⟩ := List.exists_cons_of_ne_nil h.key.chars_ne_nil
  have hx : ArgumentKey.isNameChar x = true := h.key.isNameChar (by simp [hk])
  have hmem : x ∈ Text.trim a.content :=
    Text.mem_trim (by simp [content, hk]) (ArgumentKey.isBlank_of_isNameChar hx)
  rw [ht, List.mem_singleton] at hmem
  exact ArgumentKey.ne_of_isNameChar hx (by decide) hmem

/-- **A writable argument is read back from what is written for it.** -/
theorem IsWritable.read_content (h : a.IsWritable) : read a.content = .ok (some a) := by
  have hbar {w : List Char} (hw : IsWord w) : '|' ∉ w := fun hx => (hw.free _ hx).1 rfl
  have hmark : ∀ x ∈ a.key.chars ++ (if a.optional then ['?'] else []), x ≠ '|' ∧ x ≠ ':' := by
    intro x hx
    rcases List.mem_append.1 hx with hx | hx
    · exact ⟨ArgumentKey.ne_of_isNameChar (h.key.isNameChar hx) (by decide),
        ArgumentKey.ne_of_isNameChar (h.key.isNameChar hx) (by decide)⟩
    · split at hx
      · obtain rfl := List.mem_singleton.1 hx
        decide
      · cases hx
  have hnames : ∀ q ∈ a.formatters.map String.toList, '|' ∉ q := by
    intro q hq
    obtain ⟨name, hname, rfl⟩ := List.mem_map.1 hq
    exact hbar (h.formatters hname)
  have htype : '|' ∉ a.typeChars := by
    rcases typeTag?_typeChars h.typeTag with ⟨ht, -⟩ | ⟨t, ht, hw, -⟩
    · simp [ht]
    · simp [ht, hbar hw]
  have hdecl : '|' ∉ a.key.chars ++ (if a.optional then ['?'] else []) ++ a.typeChars := by
    intro hx
    rcases List.mem_append.1 hx with hx | hx
    · exact (hmark _ hx).1 rfl
    · exact htype hx
  have hkey := h.key.readMarked_chars a.optional
  rw [read, content, Text.pieces_append_flatMap hdecl hnames]
  rcases typeTag?_typeChars h.typeTag with ⟨ht, hnone⟩ | ⟨t, ht, -, htag⟩
  · have hcut := Text.cut_of_not_mem fun hx => (hmark ':' hx).2 rfl
    simp only [ht, List.append_nil, hcut, hkey, formatterNames_map fun _ => h.formatters]
    rw [map_ok, Option.map_some, typeTag?, ← hnone]
  · have hcut := Text.cut_append_cons (fun hx => (hmark ':' hx).2 rfl) t
    simp only [ht, hcut, hkey, formatterNames_map fun _ => h.formatters, htag]
    rfl

/-- **What is read from a content without braces is writable.** -/
theorem isWritable_of_read (hc : BraceFree c) (h : read c = .ok (some a)) : a.IsWritable := by
  unfold read at h
  split at h
  · cases h
  · rename_i decl names hp
    obtain ⟨o, ho, hm⟩ := map_eq_ok_iff.1 h
    obtain ⟨⟨k, opt⟩, rfl, rfl⟩ := Option.map_eq_some_iff.1 hm
    have hfree (p : List Char) (hp' : p ∈ decl :: names) (x : Char) (hx : x ∈ p) :
        x ≠ '|' ∧ x ≠ '{' ∧ x ≠ '}' := by
      obtain ⟨hxc, hbar⟩ := Text.mem_of_mem_pieces (hp ▸ hp') hx
      exact ⟨hbar, hc x hxc⟩
    have hword (p : List Char) (hp' : ∀ x ∈ p, x ≠ '|' ∧ x ≠ '{' ∧ x ≠ '}')
        (hne : Text.trim p ≠ []) : IsWord (String.ofList (Text.trim p)).toList := by
      rw [String.toList_ofList]
      exact ⟨hne, Text.trim_trim p, fun x hx => hp' x (Text.mem_of_mem_trim hx)⟩
    refine ⟨ArgumentKey.isWritable_of_readMarked ho, fun {tag} htag => ?_, fun {name} hname => ?_⟩
    · cases hr : (Text.cut ':' decl).2 with
      | none =>
        rw [hr] at htag
        cases htag
      | some t =>
        have hsub := (Text.cut_eq_some (Prod.ext rfl hr : Text.cut ':' decl = (_, some t))).1
        rw [hr, typeTag?] at htag
        split at htag
        · cases htag
        · rename_i hne
          obtain rfl := Option.some.inj htag
          refine hword t (fun x hx => hfree decl (by simp) x ?_) hne
          rw [hsub]
          simp [hx]
    · obtain ⟨q, hq, rfl⟩ := List.mem_map.1 hname
      obtain ⟨hq, hne⟩ := List.mem_filter.1 hq
      obtain ⟨p, hp', rfl⟩ := List.mem_map.1 hq
      exact hword p (hfree p (by simp [hp'])) (by simpa using hne)

end Argument

end Phrasebook
