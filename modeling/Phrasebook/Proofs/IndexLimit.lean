/-
# Why a text cannot be read

Reading fails for one reason alone, a position with too many digits (`parse_identity`): the error
has the number of digits in a run that stands in the text, between characters that are no digits
(`ParseError.StandsIn`). Such a run stands wherever a key is looked for, in the braces of an
argument or behind the opening braces of a block, so the error is followed from there through
arguments, forms and blocks to the whole text (`Template.standsIn_of_parse`).
-/

import Phrasebook.Proofs.Driver
import Phrasebook.Proofs.PlaceholderGrammar

namespace Phrasebook

variable {s t c body rest : List Char} {x y : Char} {e : ParseError}

/-- Whether an error is about a run of digits in a text: as many digits as the error says, too many
for a position, between two characters that are no digits. -/
def ParseError.StandsIn (e : ParseError) (s : List Char) : Prop :=
  ∃ run x y, x :: (run ++ [y]) <:+: s ∧ run.all Text.isAsciiDigit = true ∧
    Text.isAsciiDigit x = false ∧ Text.isAsciiDigit y = false ∧
    ArgumentKey.maxIndexDigits < run.length ∧ e = .indexTooLong run.length

/-- An overlong number that stands in a part of a text stands in the text. -/
theorem ParseError.StandsIn.mono (h : e.StandsIn s) (hs : s <:+: t) : e.StandsIn t := by
  obtain ⟨run, x, y, hrun, hrest⟩ := h
  exact ⟨run, x, y, hrun.trans hs, hrest⟩

/-- A text with an overlong number in it has too many digits in a row. -/
theorem ParseError.StandsIn.not_shortRuns (h : e.StandsIn s) : ¬ ShortRuns s := by
  obtain ⟨run, x, y, hrun, hdigits, -, -, hlong, -⟩ := h
  refine fun hshort => Nat.not_le_of_lt hlong (hshort run ?_ hdigits)
  exact List.IsInfix.trans ⟨[x], [y], rfl⟩ hrun

namespace Text

/-- No blank is a digit. -/
theorem isAsciiDigit_of_isBlank (h : isBlank x = true) : isAsciiDigit x = false := by
  by_contra hd
  rw [Bool.not_eq_false] at hd
  have hb := ArgumentKey.isBlank_of_isNameChar (ArgumentKey.isNameChar_of_isAsciiDigit hd)
  rw [h] at hb
  cases hb

/-- A text that is put together from others has each of them in it. -/
theorem isInfix_joined {p : List Char} {ps : List (List Char)} (h : p ∈ ps) :
    p <:+: joined x ps := by
  induction ps with
  | nil => cases h
  | cons q ps ih =>
    cases ps with
    | nil =>
      obtain rfl := List.mem_singleton.1 h
      exact List.infix_rfl
    | cons r ps =>
      rw [joined]
      rcases List.mem_cons.1 h with rfl | h
      · exact (List.prefix_append _ _).isInfix
      · exact (ih h).trans ((List.suffix_cons _ _).trans (List.suffix_append _ _)).isInfix

end Text

namespace ArgumentKey

/-- What is taken away around a key has no digits. -/
theorem exists_append_unmarked_append (s : List Char) :
    ∃ b d, s = b ++ unmarked s ++ d ∧ ∀ x ∈ b ++ d, Text.isAsciiDigit x = false := by
  obtain ⟨b, d, hb, hd, hs⟩ := Text.exists_append_trim_append s
  have hb' (x : Char) (hx : x ∈ b) := Text.isAsciiDigit_of_isBlank (hb x hx)
  have hd' (x : Char) (hx : x ∈ d) := Text.isAsciiDigit_of_isBlank (hd x hx)
  unfold unmarked
  split
  · rename_i hq
    obtain ⟨r, hr⟩ := List.getLast?_eq_some_iff.1 (beq_iff_eq.1 hq)
    rw [hr, List.dropLast_concat]
    obtain ⟨m, hm, hdrop⟩ := Text.exists_trimRight_append r
    refine ⟨b, m ++ '?' :: d, ?_, fun x hx => ?_⟩
    · rw [hr] at hs
      conv => lhs; rw [hs, hdrop]
      simp
    · simp only [List.mem_append, List.mem_cons] at hx
      rcases hx with hx | hx | rfl | hx
      · exact hb' x hx
      · exact Text.isAsciiDigit_of_isBlank (hm x hx)
      · decide
      · exact hd' x hx
  · exact ⟨b, d, by rw [List.append_assoc]; exact hs, fun x hx =>
      (List.mem_append.1 hx).elim (hb' x) (hd' x)⟩

/-- A key that cannot be read is a number, and the error says how many digits it has. -/
theorem eq_indexTooLong_of_read (h : read s = .error e) : e = .indexTooLong s.length := by
  unfold read at h
  split at h
  · cases h
  · split at h
    · split at h
      · cases h
      · exact (Except.error.inj h).symm
    · split at h <;> cases h

/-- **A key is refused for the digits that it is written with,** whatever stands around it. -/
theorem standsIn_of_readMarked (h : readMarked s = .error e) (hx : Text.isAsciiDigit x = false)
    (hy : Text.isAsciiDigit y = false) : e.StandsIn (x :: (s ++ [y])) := by
  have hread := map_eq_error_iff.1 h
  obtain ⟨hdigits, hlong⟩ := digits_of_read hread
  obtain ⟨b, d, hs, hbd⟩ := exists_append_unmarked_append s
  obtain ⟨b', x', hb⟩ : ∃ b' x', x :: b = b' ++ [x'] :=
    ⟨_, _, (List.dropLast_concat_getLast (List.cons_ne_nil x b)).symm⟩
  obtain ⟨y', d', hd⟩ : ∃ y' d', d ++ [y] = y' :: d' := List.exists_cons_of_ne_nil (by simp)
  have hx' : Text.isAsciiDigit x' = false := by
    have hmem : x' ∈ x :: b := hb ▸ List.mem_append_right b' (List.mem_singleton_self x')
    rcases List.mem_cons.1 hmem with rfl | hmem
    · exact hx
    · exact hbd x' (List.mem_append_left _ hmem)
  have hy' : Text.isAsciiDigit y' = false := by
    have hmem : y' ∈ d ++ [y] := hd ▸ List.mem_cons_self
    rcases List.mem_append.1 hmem with hmem | hmem
    · exact hbd y' (List.mem_append_right _ hmem)
    · exact List.mem_singleton.1 hmem ▸ hy
  refine ⟨unmarked s, x', y', ⟨b', d', ?_⟩, hdigits, hx', hy', hlong, eq_indexTooLong_of_read hread⟩
  calc b' ++ x' :: (unmarked s ++ [y']) ++ d'
      = (b' ++ [x']) ++ unmarked s ++ (y' :: d') := by simp
    _ = (x :: b) ++ unmarked s ++ (d ++ [y]) := by rw [hb, hd]
    _ = x :: ((b ++ unmarked s ++ d) ++ [y]) := by simp
    _ = x :: (s ++ [y]) := by rw [← hs]

end ArgumentKey

/-- An argument is refused for a key in its braces. -/
theorem Argument.standsIn_of_read (h : Argument.read c = .error e) :
    e.StandsIn ('{' :: (c ++ ['}'])) := by
  obtain ⟨head, typed, names, tag, rfl, htype, -, -, hread⟩ := exists_parts c
  rw [hread] at h
  -- the key ends at a colon, a bar or the closing brace
  obtain ⟨y, r, hy, hr⟩ : ∃ y r, Text.isAsciiDigit y = false ∧
      typed ++ names.flatMap ('|' :: ·) ++ ['}'] = y :: r := by
    cases htype with
    | blank => exact ⟨':', _, by decide, rfl⟩
    | word => exact ⟨':', _, by decide, rfl⟩
    | absent =>
      cases names with
      | nil => exact ⟨'}', _, by decide, rfl⟩
      | cons name names => exact ⟨'|', _, by decide, rfl⟩
  refine (ArgumentKey.standsIn_of_readMarked (map_eq_error_iff.1 h) (x := '{') (by decide) hy).mono
    ⟨[], r, ?_⟩
  simpa using hr.symm

namespace Segment

variable {α : Type} {opener : Opener α} {segments : List (Segment α)}

/-- Scanning fails at a brace behind which the opener fails. -/
theorem exists_read_of_scan
    (hrest : ∀ {s x rest}, opener.read s = .ok (some (x, rest)) → rest <:+ s)
    (h : scan opener s = .error e) : ∃ r, '{' :: r <:+ s ∧ opener.read r = .error e := by
  induction s using scan.induct opener with
  | case1 =>
    rw [scan_nil] at h
    cases h
  | case2 s e' he =>
    rw [scan_brace_of_error he] at h
    obtain rfl := Except.error.inj h
    exact ⟨s, List.suffix_rfl, he⟩
  | case3 s x rest hx _ ih =>
    rw [scan_brace_of_some hx] at h
    obtain ⟨r, hr, he⟩ := ih (map_eq_error_iff.1 h)
    exact ⟨r, hr.trans ((hrest hx).trans (List.suffix_cons ..)), he⟩
  | case4 s hx ih =>
    rw [scan_brace_of_none hx] at h
    obtain ⟨r, hr, he⟩ := ih (map_eq_error_iff.1 h)
    exact ⟨r, hr.trans (List.suffix_cons ..), he⟩
  | case5 c s hc ih =>
    rw [scan_cons_of_ne hc] at h
    obtain ⟨r, hr, he⟩ := ih (map_eq_error_iff.1 h)
    exact ⟨r, hr.trans (List.suffix_cons ..), he⟩

end Segment

/-- An argument in braces that cannot be read has an overlong number in it. -/
theorem standsIn_of_braced? (hb : braced? s = some (c, rest)) (h : Argument.read c = .error e) :
    e.StandsIn ('{' :: s) := by
  refine (Argument.standsIn_of_read h).mono ⟨[], rest, ?_⟩
  rw [braced?_eq_some hb]
  simp

namespace FormPlaceholder

/-- What is left behind a placeholder of a form is the end of the text. -/
theorem isSuffix_of_read {x : FormPlaceholder} (h : FormPlaceholder.read s = .ok (some (x, rest))) :
    rest <:+ s := by
  unfold FormPlaceholder.read at h
  split at h
  · cases h
  · rename_i content rest' hb
    have hs : rest' <:+ s := ⟨content ++ ['}'], by rw [braced?_eq_some hb]; simp⟩
    split at h
    · simp only [Except.ok.injEq, Option.some.injEq, Prod.mk.injEq] at h
      exact h.2 ▸ hs
    · obtain ⟨o, -, hm⟩ := map_eq_ok_iff.1 h
      obtain ⟨a, -, he⟩ := Option.map_eq_some_iff.1 hm
      exact (Prod.mk.inj he).2 ▸ hs

/-- A placeholder of a form that cannot be read has an overlong number in it. -/
theorem standsIn_of_read (h : FormPlaceholder.read s = .error e) : e.StandsIn ('{' :: s) := by
  unfold FormPlaceholder.read at h
  split at h
  · cases h
  · rename_i content rest hb
    split at h
    · cases h
    · exact standsIn_of_braced? hb (map_eq_error_iff.1 h)

end FormPlaceholder

namespace TemplatePlaceholder

/-- What is left behind a placeholder of a template is the end of the text. -/
theorem isSuffix_of_read {x : TemplatePlaceholder}
    (h : TemplatePlaceholder.read s = .ok (some (x, rest))) : rest <:+ s := by
  obtain ⟨slice, hslice, he⟩ := read_eq_some_iff.1 h
  cases slice with
  | nil => cases x <;> simp [IsSlice] at hslice
  | cons y slice => exact ⟨slice, (List.cons.inj he).2.symm⟩

/-- A placeholder of a template that cannot be read has an overlong number in it. -/
theorem standsIn_of_read (h : TemplatePlaceholder.read s = .error e) : e.StandsIn ('{' :: s) := by
  unfold TemplatePlaceholder.read at h
  split at h
  · cases h
  · have hread := map_eq_error_iff.1 h
    unfold readArgument at hread
    split at hread
    · cases hread
    · rename_i content rest hb
      exact standsIn_of_braced? hb (map_eq_error_iff.1 hread)

end TemplatePlaceholder

/-- The text of a form is a stretch of one of the texts that are labelled, or empty. -/
theorem isInfix_of_mem_labelledForms {texts : List (List Char)} {p : PluralCategory × List Char}
    (h : p ∈ labelledForms texts) : p.2 = [] ∨ ∃ t ∈ texts, p.2 <:+: t := by
  unfold labelledForms at h
  split at h
  · rename_i forms hlabels
    obtain ⟨t, ht, hlabel⟩ := exists_mem_of_forall₂ (formLabels?_eq_some_iff.1 hlabels) h
    obtain ⟨-, x, -, -, rfl⟩ := formLabel?_eq_some hlabel
    exact .inr ⟨_, ht, (List.suffix_append x p.2).isInfix⟩
  · split at h
    · simp only [List.mem_cons, List.not_mem_nil, or_false] at h
      rcases h with rfl | rfl
      · exact .inl rfl
      · exact .inr ⟨_, List.mem_singleton_self _, List.infix_rfl⟩
    · refine .inr ⟨p.2, ?_, List.infix_rfl⟩
      have hmem := (List.of_mem_zip h).2
      rcases List.mem_append.1 hmem with hmem | hmem
      · exact List.mem_of_mem_take hmem
      · exact List.mem_of_getLast? (Option.mem_toList.1 hmem)

namespace PluralForm

/-- Reading forms fails where reading the text of one fails. -/
theorem exists_of_readAll {pairs : List (PluralCategory × List Char)}
    (h : readAll pairs = .error e) : ∃ p ∈ pairs, FormElement.readAll p.2 = .error e := by
  induction pairs with
  | nil => cases h
  | cons p pairs ih =>
    rw [readAll] at h
    split at h
    · rename_i e' he
      obtain rfl := Except.error.inj h
      exact ⟨p, by simp, he⟩
    · obtain ⟨q, hq, he⟩ := ih (map_eq_error_iff.1 h)
      exact ⟨q, by simp [hq], he⟩

/-- A body whose forms cannot be read has an overlong number in it. -/
theorem standsIn_of_readAll (h : readAll (labelledForms (formTexts body)) = .error e) :
    e.StandsIn body := by
  obtain ⟨p, hp, hread⟩ := exists_of_readAll h
  obtain ⟨r, hr, he⟩ := Segment.exists_read_of_scan FormPlaceholder.isSuffix_of_read
    (map_eq_error_iff.1 hread)
  have hstands := (FormPlaceholder.standsIn_of_read he).mono hr.isInfix
  rcases isInfix_of_mem_labelledForms hp with hnil | ⟨t, ht, hpt⟩
  · rw [hnil, List.suffix_nil] at hr
    cases hr
  · have hbody : t <:+: body := joined_formTexts body ▸ Text.isInfix_joined ht
    exact hstands.mono (hpt.trans hbody)

end PluralForm

/-- **A block is refused for the key in front of its body or for a key in a form.** -/
theorem PluralBlock.standsIn_of_read {fallback : ArgumentKey}
    (h : PluralBlock.read fallback body = .error e) : e.StandsIn ('{' :: body) := by
  unfold PluralBlock.read at h
  split at h
  · rename_i e' hkey
    obtain rfl := Except.error.inj h
    obtain ⟨p, t, rfl, -, -, hread⟩ := keyPrefix_eq_error hkey
    refine (ArgumentKey.standsIn_of_readMarked hread (x := '{') (y := ':') (by decide)
      (by decide)).mono ⟨[], t, by simp⟩
  · rename_i key rest hkey
    obtain ⟨-, p, -, -, -, -, rfl⟩ := keyPrefix_eq_some hkey
    have hinfix : rest <:+: '{' :: (p ++ ':' :: rest) := ⟨'{' :: (p ++ [':']), [], by simp⟩
    exact (PluralForm.standsIn_of_readAll (map_eq_error_iff.1 h)).mono hinfix
  · exact (PluralForm.standsIn_of_readAll (map_eq_error_iff.1 h)).mono
      (List.suffix_cons '{' body).isInfix

namespace Template

variable {source : String} {key : ArgumentKey} {segments : List (Segment TemplatePlaceholder)}

/-- Binding fails where reading one of the blocks fails. -/
theorem exists_of_bind (h : bind key segments = .error e) : ∃ key body,
    .placeholder (.plural body) ∈ segments ∧ PluralBlock.read key body = .error e := by
  induction segments generalizing key with
  | nil => cases h
  | cons y segments ih =>
    have htail {key : ArgumentKey} (h : bind key segments = .error e) : ∃ key body,
        .placeholder (.plural body) ∈ y :: segments ∧ PluralBlock.read key body = .error e := by
      obtain ⟨key, body, hmem, hread⟩ := ih h
      exact ⟨key, body, .tail _ hmem, hread⟩
    rcases y with l | (a | body)
    · exact htail (map_eq_error_iff.1 h)
    · exact htail (map_eq_error_iff.1 h)
    · rw [bind] at h
      split at h
      · rename_i e' he
        obtain rfl := Except.error.inj h
        exact ⟨key, body, by simp, he⟩
      · exact htail (map_eq_error_iff.1 h)

/-- The body of a block stands in the text behind its opening braces. -/
theorem isInfix_of_mem_segments (hs : Segment.Segmentation TemplatePlaceholder.opener s segments)
    (h : .placeholder (.plural body) ∈ segments) : '{' :: body <:+: s := by
  induction hs with
  | nil => cases h
  | literal _ _ _ _ ih =>
    exact (ih (by simpa using h)).trans (List.suffix_append _ _).isInfix
  | @placeholder s rest x segments hx _ ih =>
    obtain ⟨slice, hslice, he⟩ := TemplatePlaceholder.read_eq_some_iff.1 hx
    rw [he]
    rcases List.mem_cons.1 h with hbody | hmem
    · obtain rfl := Segment.placeholder.inj hbody
      obtain ⟨-, rfl⟩ := hslice
      exact ⟨['{'], '}' :: '}' :: rest, by simp⟩
    · exact (ih hmem).trans (List.suffix_append _ _).isInfix

/-- **A text is refused for a run of digits that stands in it.** -/
theorem standsIn_of_parse (h : parse source = .error e) : e.StandsIn source.toList := by
  unfold parse at h
  split at h
  · rename_i e' hscan
    obtain rfl := Except.error.inj h
    obtain ⟨r, hr, he⟩ := Segment.exists_read_of_scan TemplatePlaceholder.isSuffix_of_read hscan
    exact (TemplatePlaceholder.standsIn_of_read he).mono hr.isInfix
  · rename_i segments hscan
    obtain ⟨key, body, hmem, hread⟩ := exists_of_bind h
    exact (PluralBlock.standsIn_of_read hread).mono
      (isInfix_of_mem_segments (Segment.scan_eq_ok_iff.1 hscan) hmem)

/-- A placeholder for a position that is written with so many nines. -/
def overlong (n : Nat) : String := String.ofList ('{' :: (List.replicate n '9' ++ ['}']))

/-- **A placeholder with too many digits is refused.** -/
theorem parse_overlong {n : Nat} (h : ArgumentKey.maxIndexDigits < n) :
    parse (overlong n) = .error (.indexTooLong n) := by
  have hchars (x : Char) (hx : x ∈ List.replicate n '9') : x = '9' := List.eq_of_mem_replicate hx
  have hnot (x : Char) (hx : x ≠ '9') : x ∉ List.replicate n '9' := fun hmem => hx (hchars x hmem)
  have hfree : BraceFree (List.replicate n '9') := fun x hx => by
    rw [hchars x hx]
    decide
  have htrim : Text.trim (List.replicate n '9') = List.replicate n '9' :=
    Text.trim_eq_self fun x hx => by rw [hchars x hx]; decide
  have hlast : ((List.replicate n '9').getLast? == some '?') = false :=
    beq_eq_false_iff_ne.2 fun hq => hnot '?' (by decide) (List.mem_of_getLast? hq)
  have hkey : ArgumentKey.read (List.replicate n '9') = .error (.indexTooLong n) := by
    have hne : List.replicate n '9' ≠ [] := by
      simp only [ne_eq, List.replicate_eq_nil_iff]
      omega
    have hdigits : (List.replicate n '9').all Text.isAsciiDigit = true :=
      List.all_eq_true.2 fun x hx => by rw [hchars x hx]; decide
    rw [ArgumentKey.read, if_neg hne, if_pos hdigits, List.length_replicate,
      if_neg (Nat.not_le_of_lt h)]
  have hmarked : ArgumentKey.readMarked (List.replicate n '9') = .error (.indexTooLong n) := by
    rw [ArgumentKey.readMarked_eq, ArgumentKey.unmarked, htrim, hlast, if_neg (by decide), hkey]
    rfl
  have hread : Argument.read (List.replicate n '9') = .error (.indexTooLong n) := by
    rw [Argument.read, Text.pieces_of_not_mem (hnot '|' (by decide))]
    simp only [Text.cut_of_not_mem (hnot ':' (by decide)), hmarked, map_error]
  have hplaceholder : TemplatePlaceholder.read (List.replicate n '9' ++ ['}']) =
      .error (.indexTooLong n) := by
    rw [TemplatePlaceholder.read, readPlural_of_braceFree hfree, readArgument,
      braced?_eq_some_iff.2 ⟨rfl, hfree⟩]
    simp only [hread, map_error]
  rw [parse, overlong, String.toList_ofList, Segment.scan_brace_of_error hplaceholder]

end Template
end Phrasebook
