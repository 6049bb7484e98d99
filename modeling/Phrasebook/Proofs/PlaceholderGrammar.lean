/-
# How the content of a placeholder is made up

The content of a placeholder (`parse_argument_content`) is what names the key, then a type
behind a colon, and then formatter names, each behind a bar (`Argument.Spells`). There may
be no type, and it may be blank; blanks around a type and around names do not count, and
blank names are left out. Types and names have no bars, and nothing else is asked of them.

A content is read as an argument exactly if it spells this argument
(`Argument.read_eq_some_iff_spells`). The parts of a content are told apart by its bars and
by its first colon, as what names a key has neither (`ArgumentKey.SpellsMarked.not_mem`). So
a content that spells no argument is read as none, unless it has a position with too many
digits (`Argument.read_iff_spells`).
-/

import Phrasebook.Proofs.KeyGrammar

namespace Phrasebook

variable {c s head typed : List Char} {names : List (List Char)} {a : Argument}

/-- Whether a text has no more digits in a row than a position may be written with. -/
def ShortRuns (s : List Char) : Prop :=
  ∀ run, run <:+: s → run.all Text.isAsciiDigit = true → run.length ≤ ArgumentKey.maxIndexDigits

/-- A short text has no long number in it. -/
theorem shortRuns_of_length_le (h : s.length ≤ ArgumentKey.maxIndexDigits) : ShortRuns s :=
  fun _ hrun _ => hrun.length_le.trans h

namespace ArgumentKey

variable {k : ArgumentKey} {opt : Bool} {x : Char}

/-- What spells a key with its mark has blanks, question marks, letters, digits and underscores
only. -/
theorem SpellsMarked.not_mem (h : SpellsMarked s k opt) (hb : Text.isBlank x = false) (hq : x ≠ '?')
    (hx : isNameChar x = false) : x ∉ s := by
  intro hmem
  rcases chars_of_readMarked (by simp [readMarked_eq_some_iff.2 h]) hmem with hs | hs | hs
  · rw [hb] at hs
    cases hs
  · exact hq hs
  · rw [hx] at hs
    cases hs

end ArgumentKey

namespace Argument

/-- Whether a text spells a type: not at all, or behind a colon and between blanks. What is blank
spells no type. -/
inductive SpellsType : List Char → Option String → Prop
  | absent : SpellsType [] none
  | blank {t : List Char} : '|' ∉ t → Text.trim t = [] → SpellsType (':' :: t) none
  | word {t : List Char} {tag : String} : '|' ∉ t → Text.trim t = tag.toList →
      SpellsType (':' :: t) (some tag)

/-- Whether a text spells an argument: its key with its mark, its type, and each of its formatter
names behind a bar and between blanks, with any blank names between them. -/
inductive Spells : List Char → Argument → Prop
  | intro {head typed : List Char} {names : List (List Char)} {a : Argument} :
      ArgumentKey.SpellsMarked head a.key a.optional → SpellsType typed a.typeTag →
      (∀ name ∈ names, '|' ∉ name) →
      (names.map Text.trim).filter (· ≠ []) = a.formatters.map String.toList →
      Spells (head ++ typed ++ names.flatMap ('|' :: ·)) a

/-- What spells a type has no bar. -/
theorem SpellsType.not_mem {t : Option String} (h : SpellsType typed t) : '|' ∉ typed := by
  cases h with
  | absent => simp
  | blank ht _ => simp [ht]
  | word ht _ => simp [ht]

/-- What is behind the first colon is read as the type that it spells. -/
theorem SpellsType.cut_append {t : Option String} (h : SpellsType typed t) (ht : t ≠ some "")
    (hhead : ':' ∉ head) : ∃ r, Text.cut ':' (head ++ typed) = (head, r) ∧ typeTag? r = t := by
  cases h with
  | absent => exact ⟨none, by rw [List.append_nil, Text.cut_of_not_mem hhead], rfl⟩
  | @blank t _ hblank =>
    exact ⟨some t, Text.cut_append_cons hhead t, by rw [typeTag?, if_pos hblank]⟩
  | @word t tag _ htag =>
    have hne : Text.trim t ≠ [] := by
      rw [htag]
      exact fun hn => ht (congrArg some (String.toList_inj.1 hn))
    exact ⟨some t, Text.cut_append_cons hhead t,
      by rw [typeTag?, if_neg hne, htag, String.ofList_toList]⟩

/-- A text without bars is what stands in front of its first colon and then a type. -/
theorem exists_spellsType_of_cut {r : Option (List Char)} (h : Text.cut ':' s = (head, r))
    (hs : '|' ∉ s) : ∃ typed, s = head ++ typed ∧ SpellsType typed (typeTag? r) := by
  cases r with
  | none =>
    obtain ⟨rfl, -⟩ := Text.cut_eq_none h
    exact ⟨[], (List.append_nil _).symm, .absent⟩
  | some t =>
    obtain ⟨rfl, -⟩ := Text.cut_eq_some h
    have hbar : '|' ∉ t := fun hmem => hs (by simp [hmem])
    refine ⟨':' :: t, rfl, ?_⟩
    rw [typeTag?]
    split
    · rename_i hblank
      exact .blank hbar hblank
    · exact .word hbar (by rw [String.toList_ofList])

/-- The formatter names are the texts between the bars without their blanks, except those of blanks
only. -/
theorem formatterNames_eq_iff {fs : List String} :
    formatterNames names = fs ↔ (names.map Text.trim).filter (· ≠ []) = fs.map String.toList := by
  constructor
  · rintro rfl
    simp [formatterNames, Function.comp_def]
  · intro h
    rw [formatterNames, h]
    simp [Function.comp_def]

/-- No type is read as an empty text. -/
theorem typeTag?_ne_empty (r : Option (List Char)) : typeTag? r ≠ some "" := by
  unfold typeTag?
  split
  · simp
  · split
    · simp
    · rename_i hne
      exact fun h => hne (by simpa using congrArg String.toList (Option.some.inj h))

/-- **Any content has its parts,** and what it is read as is told by the first one: what should
spell the key. -/
theorem exists_parts (c : List Char) : ∃ head typed names tag,
    c = head ++ typed ++ names.flatMap ('|' :: ·) ∧ SpellsType typed tag ∧ tag ≠ some "" ∧
      (∀ name ∈ names, '|' ∉ name) ∧
      read c = (ArgumentKey.readMarked head).map (·.map fun k =>
        { key := k.1, typeTag := tag, formatters := formatterNames names, optional := k.2 }) := by
  cases hpieces : Text.pieces '|' c with
  | nil => exact absurd hpieces (Text.pieces_ne_nil '|' c)
  | cons declaration names =>
    obtain ⟨hc, hbar, hnames⟩ := Text.pieces_eq_cons_iff.1 hpieces
    obtain ⟨typed, hs, htype⟩ := exists_spellsType_of_cut rfl hbar
    refine ⟨_, typed, names, _, by rw [← hs]; exact hc, htype, typeTag?_ne_empty _, hnames, ?_⟩
    simp only [read, hpieces]

/-- **A content is read as an argument exactly if it spells this argument,** where the type is no
empty text. -/
theorem read_eq_some_iff_spells :
    read c = .ok (some a) ↔ a.typeTag ≠ some "" ∧ Spells c a := by
  constructor
  · intro h
    obtain ⟨head, typed, names, tag, rfl, htype, htag, hnames, hread⟩ := exists_parts c
    rw [hread] at h
    obtain ⟨o, ho, hm⟩ := map_eq_ok_iff.1 h
    obtain ⟨⟨k, opt⟩, rfl, rfl⟩ := Option.map_eq_some_iff.1 hm
    exact ⟨htag, .intro (ArgumentKey.readMarked_eq_some_iff.1 ho) htype hnames
      (formatterNames_eq_iff.1 rfl)⟩
  · rintro ⟨ha, @⟨head, typed, names, _, hkey, htype, hnames, hfs⟩⟩
    have hcolon := hkey.not_mem (x := ':') (by decide) (by decide) (by decide)
    have hbar := hkey.not_mem (x := '|') (by decide) (by decide) (by decide)
    have hpieces := Text.pieces_append_flatMap (p := head ++ typed)
      (by simp [hbar, htype.not_mem]) hnames
    obtain ⟨r, hcut, htag⟩ := htype.cut_append ha hcolon
    simp only [read, hpieces, hcut, ArgumentKey.readMarked_eq_some_iff.2 hkey, htag,
      formatterNames_eq_iff.2 hfs]
    rfl

/-- A content is refused only for a position with too many digits. -/
theorem not_shortRuns_of_read {e : ParseError} (h : read c = .error e) : ¬ ShortRuns c := by
  obtain ⟨head, typed, names, tag, rfl, -, -, -, hread⟩ := exists_parts c
  rw [hread] at h
  obtain ⟨run, hrun, hdigits, hlong⟩ := ArgumentKey.exists_run_of_readMarked (map_eq_error_iff.1 h)
  refine fun hshort => Nat.not_le_of_lt hlong (hshort run ?_ hdigits)
  rw [List.append_assoc]
  exact hrun.trans (List.prefix_append _ _).isInfix

/-- **The content of a placeholder is read by its grammar.** Where no position has too many digits,
a content is read as exactly the argument that it spells, and as none if it spells none. -/
theorem read_iff_spells (hc : ShortRuns c) :
    (∀ a : Argument, a.typeTag ≠ some "" → (read c = .ok (some a) ↔ Spells c a)) ∧
      ((∀ a : Argument, a.typeTag ≠ some "" → ¬ Spells c a) → read c = .ok none) := by
  refine ⟨fun a ha => read_eq_some_iff_spells.trans (and_iff_right ha), fun hnone => ?_⟩
  cases hread : read c with
  | error e => exact absurd hc (not_shortRuns_of_read hread)
  | ok found =>
    cases found with
    | none => rfl
    | some a =>
      obtain ⟨ha, hspells⟩ := read_eq_some_iff_spells.1 hread
      exact absurd hspells (hnone a ha)

/-- A position with leading zeros and a mark, a type with a colon in it, and two formatter names
with blank ones around them. -/
def mileage : Argument where
  key := .positional 7
  typeTag := some "long: int"
  formatters := ["two words", "up"]
  optional := true

/-- Blanks, leading zeros and blank formatter names are passed over where an argument is spelled,
and what starts with two words spells none. -/
theorem read_iff_spells_mileage :
    (ShortRuns " 007 ? : long: int || two words| |up".toList ∧
      Spells " 007 ? : long: int || two words| |up".toList mileage) ∧
    (ShortRuns "two words|up".toList ∧
      (∀ a : Argument, a.typeTag ≠ some "" → ¬ Spells "two words|up".toList a) ∧
        read "two words|up".toList = .ok none) := by
  have hlong : ShortRuns " 007 ? : long: int || two words| |up".toList :=
    shortRuns_of_length_le (by decide)
  have hshort : ShortRuns "two words|up".toList := shortRuns_of_length_le (by decide)
  have hread : read " 007 ? : long: int || two words| |up".toList = .ok (some mileage) := by cbv
  have hnone : read "two words|up".toList = .ok none := by cbv
  obtain ⟨hiff, -⟩ := read_iff_spells hlong
  obtain ⟨hiff', hrefused⟩ := read_iff_spells hshort
  have hspells (a : Argument) (ha : a.typeTag ≠ some "") : ¬ Spells "two words|up".toList a := by
    intro hs
    have hread := (hiff' a ha).2 hs
    rw [hnone] at hread
    cases hread
  exact ⟨⟨hlong, (hiff mileage (by decide)).1 hread⟩, hshort, hspells, hrefused hspells⟩

end Argument
end Phrasebook
