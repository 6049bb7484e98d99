/-
# How keys are written

A key is spelled as a run of ASCII digits, leading zeros allowed, or as an identifier
(`ArgumentKey.Spells`). Where a template names a key, there may be blanks around it and a
question mark behind it (`ArgumentKey.SpellsMarked`), and this is all that `parse_identity`
reads as a key (`ArgumentKey.readMarked_eq_some_iff`).

The body of a plural block names a key (`split_key_prefix`) if what stands in front of its first
colon has no bar and no opening brace and spells a key with or without the mark (`NamesKey`,
`keyPrefix_eq_some_iff`).
-/

import Phrasebook.Proofs.Label

namespace Phrasebook

variable {s body rest rest' : List Char} {k l : ArgumentKey} {opt : Bool}

namespace ArgumentKey

/-- Whether a text spells a key: as the digits of a position or as a name. -/
inductive Spells : List Char → ArgumentKey → Prop
  | digits {s : List Char} : s ≠ [] → s.all Text.isAsciiDigit = true →
      s.length ≤ maxIndexDigits → Spells s (.positional (Text.asciiValue s))
  | identifier {s : List Char} : isIdentifier s = true → Spells s (.named (String.ofList s))

/-- Whether a text spells a key between blanks, with a question mark behind the key if it is
optional. -/
inductive SpellsMarked : List Char → ArgumentKey → Bool → Prop
  | plain {b s d : List Char} {k : ArgumentKey} : (∀ c ∈ b, Text.isBlank c = true) →
      (∀ c ∈ d, Text.isBlank c = true) → Spells s k → SpellsMarked (b ++ (s ++ d)) k false
  | optional {b s d e : List Char} {k : ArgumentKey} : (∀ c ∈ b, Text.isBlank c = true) →
      (∀ c ∈ d, Text.isBlank c = true) → (∀ c ∈ e, Text.isBlank c = true) → Spells s k →
      SpellsMarked (b ++ (s ++ d ++ '?' :: e)) k true

/-- **Nothing else is read as a key** than a text that spells it. -/
theorem read_eq_some_iff : read s = .ok (some k) ↔ Spells s k := by
  constructor
  · intro h
    unfold read at h
    split at h
    · cases h
    · rename_i hne
      split at h
      · rename_i hd
        split at h
        · rename_i hl
          obtain rfl := Option.some.inj (Except.ok.inj h)
          exact .digits hne hd hl
        · cases h
      · split at h
        · rename_i hi
          obtain rfl := Option.some.inj (Except.ok.inj h)
          exact .identifier hi
        · cases h
  · intro h
    cases h with
    | digits hne hd hl => rw [read, if_neg hne, if_pos hd, if_pos hl]
    | identifier hi =>
      obtain ⟨c, r, rfl, hc, -⟩ := isIdentifier_cons hi
      have hd : ¬ (c :: r).all Text.isAsciiDigit = true := by simp [hc]
      rw [read, if_neg (by simp), if_neg hd, if_pos hi]

/-- What spells a key starts somewhere and has no blanks and no question marks. -/
theorem Spells.exists_cons (h : Spells s k) :
    ∃ c r, s = c :: r ∧ ∀ x ∈ s, Text.isBlank x = false ∧ x ≠ '?' := by
  have hread := read_eq_some_iff.2 h
  obtain ⟨c, r, rfl⟩ : ∃ c r, s = c :: r := by
    cases s with
    | nil => cases hread
    | cons c r => exact ⟨c, r, rfl⟩
  refine ⟨c, r, rfl, fun x hx => ?_⟩
  have hname := isNameChar_of_read (by simp [hread]) hx
  exact ⟨isBlank_of_isNameChar hname, ne_of_isNameChar hname (by decide)⟩

/-- **Nothing else is read as a key with its mark** than a text that spells both. -/
theorem readMarked_eq_some_iff : readMarked s = .ok (some (k, opt)) ↔ SpellsMarked s k opt := by
  constructor
  · intro h
    obtain ⟨o, ho, hm⟩ := map_eq_ok_iff.1 h
    obtain ⟨k', rfl, he⟩ := Option.map_eq_some_iff.1 hm
    obtain ⟨rfl, hopt⟩ := Prod.mk.inj he
    obtain ⟨b, d, hb, hd, hs⟩ := Text.exists_append_trim_append s
    -- the mark is the last character that is no blank, or there is none
    by_cases hq : (Text.trim s).getLast? = some '?'
    · obtain rfl : true = opt := by rw [← hopt, hq]; rfl
      rw [if_pos (by rw [hq]; rfl)] at ho
      have hlast : Text.trim s = (Text.trim s).dropLast ++ ['?'] := by
        obtain ⟨r, hr⟩ := List.getLast?_eq_some_iff.1 hq
        rw [hr, List.dropLast_concat]
      obtain ⟨e, he, hdrop⟩ := Text.exists_trimRight_append (Text.trim s).dropLast
      rw [hs, hlast, hdrop, List.append_assoc _ ['?'], List.singleton_append]
      exact .optional hb he hd (read_eq_some_iff.1 ho)
    · obtain rfl : false = opt := by
        rw [← hopt, eq_comm, beq_eq_false_iff_ne]
        exact hq
      rw [if_neg (by simpa using hq)] at ho
      rw [hs]
      exact .plain hb hd (read_eq_some_iff.1 ho)
  · intro h
    cases h with
    | @plain b s d _ hb hd hspells =>
      obtain ⟨c, r, rfl, hchars⟩ := hspells.exists_cons
      have htrim : Text.trim (b ++ (c :: r ++ d)) = c :: r :=
        Text.trim_append_append hb hd (hchars c (by simp)).1
          (Text.trimRight_eq_self fun x hx => (hchars x hx).1)
      have hq : (c :: r).getLast? ≠ some '?' := fun h =>
        (hchars _ (List.mem_of_getLast? h)).2 rfl
      simp only [readMarked, htrim, beq_eq_false_iff_ne.2 hq, Bool.false_eq_true, if_false,
        read_eq_some_iff.2 hspells]
      rfl
    | @optional b s d e _ hb hd he hspells =>
      obtain ⟨c, r, rfl, hchars⟩ := hspells.exists_cons
      have hmark : c :: r ++ d ++ '?' :: e = c :: (r ++ d ++ ['?']) ++ e := by simp
      have htrim : Text.trim (b ++ (c :: r ++ d ++ '?' :: e)) = c :: r ++ d ++ ['?'] := by
        rw [hmark]
        exact Text.trim_append_append hb he (hchars c (by simp)).1
          (Text.trimRight_concat (s := c :: (r ++ d)) (by decide))
      have hdrop : (c :: r ++ d ++ ['?']).dropLast = c :: r ++ d := List.dropLast_concat
      have hlast : (c :: r ++ d ++ ['?']).getLast? = some '?' := List.getLast?_concat
      have hname : Text.trimRight (c :: r ++ d) = c :: r := by
        rw [Text.trimRight_append hd, Text.trimRight_eq_self fun x hx => (hchars x hx).1]
      simp only [readMarked, htrim, hlast, beq_self_eq_true, if_true, hdrop, hname,
        read_eq_some_iff.2 hspells]
      rfl

end ArgumentKey

/-- Whether the body of a plural block names a key in front of its first colon, and what stands
behind the colon: the text in front has no bar and no opening brace, and spells the key. -/
def NamesKey (body : List Char) (k : ArgumentKey) (rest : List Char) : Prop :=
  ∃ head opt, body = head ++ ':' :: rest ∧ ':' ∉ head ∧ '|' ∉ head ∧ '{' ∉ head ∧
    ArgumentKey.SpellsMarked head k opt

/-- **A body is read with a key exactly if it names one.** -/
theorem keyPrefix_eq_some_iff : keyPrefix body = .ok (some (k, rest)) ↔ NamesKey body k rest := by
  constructor
  · intro h
    obtain ⟨-, head, opt, hread, hfree, -, he⟩ := keyPrefix_eq_some h
    exact ⟨head, opt, he, fun hx => (hfree _ hx).1 rfl, fun hx => (hfree _ hx).2.1 rfl,
      fun hx => (hfree _ hx).2.2 rfl, ArgumentKey.readMarked_eq_some_iff.1 hread⟩
  · rintro ⟨head, opt, rfl, hcolon, hbar, hbrace, hspells⟩
    have hfree : ∀ x ∈ head, x ≠ ':' ∧ x ≠ '|' ∧ x ≠ '{' := fun x hx =>
      ⟨ne_of_mem_of_not_mem hx hcolon, ne_of_mem_of_not_mem hx hbar,
        ne_of_mem_of_not_mem hx hbrace⟩
    rw [keyPrefix_append hfree, ArgumentKey.readMarked_eq_some_iff.2 hspells]
    rfl

/-- A body names no more than one key. -/
theorem NamesKey.unique (h : NamesKey body k rest) (h' : NamesKey body l rest') :
    k = l ∧ rest = rest' := by
  have he := (keyPrefix_eq_some_iff.2 h).symm.trans (keyPrefix_eq_some_iff.2 h')
  exact Prod.mk.inj (Option.some.inj (Except.ok.inj he))

/-- A body names no key if none is read from it. -/
theorem not_namesKey_of_keyPrefix (h : keyPrefix body = .ok none) : ¬ NamesKey body k rest := by
  intro hk
  rw [keyPrefix_eq_some_iff.2 hk] at h
  cases h

end Phrasebook
