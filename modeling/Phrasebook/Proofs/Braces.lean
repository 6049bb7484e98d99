/-
# Counting braces

The end of a plural block is found by counting (`TemplateParser._scan_plural`): an opening
brace counts up, a closing brace counts down unless the count is zero, and the block ends at
the first two closing braces in a row that are met at zero. `pluralBody?_eq_some_iff` and
`pluralBody?_eq_none_iff` say so without the reader.

A block that is not closed stays open when a stretch of the text behind it is written in
another way, as long as the new text has no more closing braces to offer (`Loosens`).
Exchanging balanced text for text without braces is such a change (`loosens_exchange`),
and such changes can be made one after the other and side by side.
-/

import Phrasebook.Template.Segment

namespace Phrasebook

variable {s t s' t' u x y body rest : List Char} {c : Char} {d e : Nat}

/-- The number of open braces after one more character. -/
def braceStep (d : Nat) (c : Char) : Nat :=
  if c = '{' then d + 1 else if c = '}' then d - 1 else d

/-- The number of open braces after a text, if `d` are open before it. -/
def braceDepth (d : Nat) (s : List Char) : Nat := s.foldl braceStep d

/-- Whether a text has no braces. -/
def BraceFree (s : List Char) : Prop := ∀ c ∈ s, c ≠ '{' ∧ c ≠ '}'

/-- An empty text opens nothing. -/
@[simp] theorem braceDepth_nil : braceDepth d [] = d := rfl

/-- Braces are counted one character after the other. -/
@[simp] theorem braceDepth_cons : braceDepth d (c :: s) = braceDepth (braceStep d c) s := rfl

/-- Braces are counted one text after the other. -/
@[simp] theorem braceDepth_append : braceDepth d (s ++ t) = braceDepth (braceDepth d s) t :=
  List.foldl_append

/-- No other character opens or closes anything. -/
theorem braceStep_of_ne (ho : c ≠ '{') (hc : c ≠ '}') : braceStep d c = d := by
  simp [braceStep, ho, hc]

/-- An opening brace opens one more. -/
theorem braceStep_open : braceStep d '{' = d + 1 := by simp [braceStep]

/-- A closing brace closes the last one that is open. -/
theorem braceStep_close : braceStep (d + 1) '}' = d := by simp [braceStep]

/-- A character keeps the order of the numbers of open braces. -/
theorem braceStep_mono (h : d ≤ e) : braceStep d c ≤ braceStep e c := by
  unfold braceStep
  split
  · omega
  · split <;> omega

/-- A text keeps the order of the numbers of open braces. -/
theorem braceDepth_mono (h : d ≤ e) (s : List Char) : braceDepth d s ≤ braceDepth e s := by
  induction s generalizing d e with
  | nil => exact h
  | cons c s ih => exact ih (braceStep_mono h)

/-- With more braces open before it, a character leaves at most that many more open. -/
theorem braceStep_add_le : braceStep (d + e) c ≤ d + braceStep e c := by
  unfold braceStep
  split
  · omega
  · split <;> omega

/-- Braces that are open before a text are closed by it at most. -/
theorem braceDepth_add_le (d e : Nat) (s : List Char) :
    braceDepth (d + e) s ≤ d + braceDepth e s := by
  induction s generalizing e with
  | nil => exact Nat.le_refl _
  | cons c s ih => exact Nat.le_trans (braceDepth_mono braceStep_add_le s) (ih _)

/-- Balanced text leaves no brace open that was not open before. -/
theorem braceDepth_le_of_balanced (h : braceDepth 0 s = 0) (d : Nat) : braceDepth d s ≤ d := by
  have hadd := braceDepth_add_le d 0 s
  rwa [h] at hadd

namespace BraceFree

/-- An empty text has no braces. -/
@[simp] theorem nil : BraceFree [] := fun _ h => absurd h List.not_mem_nil

/-- Two texts without braces have none together. -/
theorem append (hs : BraceFree s) (ht : BraceFree t) : BraceFree (s ++ t) := fun c h =>
  (List.mem_append.1 h).elim (hs c) (ht c)

/-- A character that is no brace may stand in front of a text without braces. -/
theorem cons (ho : c ≠ '{') (hc : c ≠ '}') (hs : BraceFree s) : BraceFree (c :: s) := by
  intro a ha
  rcases List.mem_cons.1 ha with rfl | ha
  · exact ⟨ho, hc⟩
  · exact hs a ha

/-- A text without braces opens and closes nothing. -/
theorem braceDepth_eq (h : BraceFree s) (d : Nat) : braceDepth d s = d := by
  induction s with
  | nil => rfl
  | cons c s ih =>
    obtain ⟨ho, hc⟩ := h c (by simp)
    rw [braceDepth_cons, braceStep_of_ne ho hc]
    exact ih fun a ha => h a (by simp [ha])

/-- Two braces with text between them leave no brace open. -/
theorem braceDepth_braces (h : BraceFree s) (t : List Char) :
    braceDepth d ('{' :: (s ++ '}' :: t)) = braceDepth d t := by
  rw [braceDepth_cons, braceDepth_append, braceStep_open, h.braceDepth_eq, braceDepth_cons,
    braceStep_close]

end BraceFree

/-- Whether a plural block that has `d` braces open in its body is closed by the text. -/
def Closes (d : Nat) (s : List Char) : Prop :=
  ∃ u v, s = u ++ '}' :: '}' :: v ∧ braceDepth d u = 0

/-- No block is closed by an empty text. -/
theorem not_closes_nil : ¬ Closes d [] := by
  rintro ⟨u, v, h, -⟩
  simp at h

/-- Two closing braces close a block that has no brace open in its body. -/
theorem closes_here : Closes 0 ('}' :: '}' :: s) := ⟨[], s, rfl, rfl⟩

/-- A block is closed at once or later. -/
theorem closes_cons_iff :
    Closes d (c :: s) ↔ (c = '}' ∧ d = 0 ∧ ∃ r, s = '}' :: r) ∨ Closes (braceStep d c) s := by
  constructor
  · rintro ⟨u, v, h, hu⟩
    cases u with
    | nil =>
      obtain ⟨rfl, rfl⟩ := List.cons.inj h
      exact .inl ⟨rfl, hu, v, rfl⟩
    | cons a u =>
      obtain ⟨rfl, rfl⟩ := List.cons.inj h
      exact .inr ⟨u, v, rfl, hu⟩
  · rintro (⟨rfl, rfl, r, rfl⟩ | ⟨u, v, rfl, hu⟩)
    · exact closes_here
    · exact ⟨c :: u, v, rfl, hu⟩

/-- A block is not closed at a character that is no closing brace, but may be behind it. -/
theorem closes_cons_of_ne (hc : c ≠ '}') : Closes d (c :: s) ↔ Closes (braceStep d c) s := by
  simp [closes_cons_iff, hc]

/-- A block that is closed is closed, whatever comes behind. -/
theorem Closes.append_right (h : Closes d s) (t : List Char) : Closes d (s ++ t) := by
  obtain ⟨u, v, rfl, hu⟩ := h
  exact ⟨u, v ++ t, by simp, hu⟩

/-- A block that is closed by the second text is closed by both, with the braces of the first one
open. -/
theorem Closes.append_left (h : Closes (braceDepth d s) t) : Closes d (s ++ t) := by
  obtain ⟨u, v, rfl, hu⟩ := h
  exact ⟨s ++ u, v, by simp, by simpa using hu⟩

/-- With more braces open a block is closed later, if at all. -/
theorem Closes.mono (hde : d ≤ e) (h : Closes e s) : Closes d s := by
  obtain ⟨u, v, rfl, hu⟩ := h
  exact ⟨u, v, rfl, Nat.le_zero.1 (hu ▸ braceDepth_mono hde u)⟩

/-- No two closing braces meet in front of another character. -/
theorem closes_append_cons_iff (hc : c ≠ '}') :
    Closes d (s ++ c :: t) ↔ Closes d s ∨ Closes (braceDepth d s) (c :: t) := by
  constructor
  · intro h
    induction s generalizing d with
    | nil => exact .inr h
    | cons a s ih =>
      rw [List.cons_append, closes_cons_iff] at h
      rcases h with ⟨rfl, rfl, r, hr⟩ | h
      · cases s with
        | nil => exact absurd (List.cons.inj hr).1 hc
        | cons b s =>
          obtain ⟨rfl, -⟩ := List.cons.inj hr
          exact .inl closes_here
      · rcases ih h with h | h
        · exact .inl (closes_cons_iff.2 (.inr h))
        · exact .inr h
  · rintro (h | h)
    · exact h.append_right _
    · exact h.append_left

/-- In front of a closing brace a block is closed earlier, or by a closing brace at the end. -/
theorem closes_concat_iff :
    Closes d (s ++ ['}']) ↔ Closes d s ∨ ∃ u, s = u ++ ['}'] ∧ braceDepth d u = 0 := by
  constructor
  · rintro ⟨u, v, h, hu⟩
    rcases List.eq_nil_or_concat v with rfl | ⟨w, b, rfl⟩
    · have h' : s ++ ['}'] = (u ++ ['}']) ++ ['}'] := by simpa using h
      exact .inr ⟨u, (List.append_inj' h' rfl).1, hu⟩
    · have h' : s ++ ['}'] = (u ++ '}' :: '}' :: w) ++ [b] := by simpa using h
      exact .inl ⟨u, w, (List.append_inj' h' rfl).1, hu⟩
  · rintro (h | ⟨u, rfl, hu⟩)
    · exact h.append_right _
    · exact ⟨u, [], by simp, hu⟩

/-- A text without braces changes nothing about what closes a block behind it. -/
theorem BraceFree.closes_append_iff (h : BraceFree s) : Closes d (s ++ t) ↔ Closes d t := by
  induction s with
  | nil => rfl
  | cons c s ih =>
    obtain ⟨ho, hc⟩ := h c (by simp)
    rw [List.cons_append, closes_cons_of_ne hc, braceStep_of_ne ho hc]
    exact ih fun a ha => h a (by simp [ha])

/-- A text without braces closes no block. -/
theorem BraceFree.not_closes (h : BraceFree s) : ¬ Closes d s := by
  rintro ⟨u, v, rfl, -⟩
  exact (h '}' (by simp)).2 rfl

/-- Text without braces behind a text closes no block. -/
theorem BraceFree.closes_append_right_iff (h : BraceFree t) : Closes d (s ++ t) ↔ Closes d s := by
  cases t with
  | nil => rw [List.append_nil]
  | cons c t =>
    rw [closes_append_cons_iff (h c (by simp)).2]
    exact or_iff_left h.not_closes

/-- Two braces with text between them close no block. -/
theorem BraceFree.closes_braces_iff (h : BraceFree s) :
    Closes d ('{' :: (s ++ '}' :: t)) ↔ Closes d t := by
  rw [closes_cons_of_ne (by decide), braceStep_open, h.closes_append_iff, closes_cons_iff,
    braceStep_close]
  simp

/-- A text that a plural block is closed behind and not before: all its braces are closed, and
no two closing braces in a row are met outside all braces before its end. -/
structure IsPluralBody (body : List Char) : Prop where
  balanced : braceDepth 0 body = 0
  ends_last {u v : List Char} : body ++ ['}', '}'] = u ++ '}' :: '}' :: v →
    u.length < body.length → braceDepth 0 u ≠ 0

/-- Where two closing braces in a row stand in a text that is followed by two more. -/
theorem exists_closing_iff (body : List Char) (p : List Char → Prop) :
    (∃ u v, body ++ ['}', '}'] = u ++ '}' :: '}' :: v ∧ u.length < body.length ∧ p u) ↔
      ∃ u v, body ++ ['}'] = u ++ '}' :: '}' :: v ∧ p u := by
  constructor
  · rintro ⟨u, v, h, hlt, hp⟩
    have hlen := congrArg List.length h
    simp only [List.length_append, List.length_cons, List.length_nil] at hlen
    obtain ⟨w, b, rfl⟩ : ∃ w b, v = w ++ [b] := by
      rcases List.eq_nil_or_concat v with rfl | ⟨w, b, rfl⟩
      · simp at hlen
        omega
      · exact ⟨w, b, by simp⟩
    refine ⟨u, w, ?_, hp⟩
    have h' : (body ++ ['}']) ++ ['}'] = (u ++ '}' :: '}' :: w) ++ [b] := by simpa using h
    exact (List.append_inj' h' rfl).1
  · rintro ⟨u, v, h, hp⟩
    have hlen := congrArg List.length h
    simp only [List.length_append, List.length_cons, List.length_nil] at hlen
    have h' : body ++ ['}', '}'] = (body ++ ['}']) ++ ['}'] := by simp
    exact ⟨u, v ++ ['}'], by rw [h', h]; simp, by omega, hp⟩

/-- A body leaves no brace open, and with one closing brace behind it the block is still open. -/
theorem isPluralBody_iff :
    IsPluralBody body ↔ braceDepth 0 body = 0 ∧ ¬ Closes 0 (body ++ ['}']) := by
  have h := exists_closing_iff body fun u => braceDepth 0 u = 0
  constructor
  · rintro ⟨hb, he⟩
    refine ⟨hb, fun hc => ?_⟩
    obtain ⟨u, v, huv, hlt, hu⟩ := h.2 hc
    exact he huv hlt hu
  · rintro ⟨hb, hc⟩
    exact ⟨hb, fun huv hlt hu => hc (h.1 ⟨_, _, huv, hlt, hu⟩)⟩

/-- Text without braces in front of a body makes no difference. -/
theorem isPluralBody_append_iff (hs : BraceFree s) :
    IsPluralBody (s ++ body) ↔ IsPluralBody body := by
  rw [isPluralBody_iff, isPluralBody_iff, braceDepth_append, hs.braceDepth_eq, List.append_assoc,
    hs.closes_append_iff]

/-- There is no end of a block in an empty text. -/
theorem pluralBody?_nil : pluralBody? d [] = none := by cases d <;> rfl

/-- The body of a block goes on behind a character that does not close the block. -/
theorem pluralBody?_cons (h : ¬ (c = '}' ∧ d = 0 ∧ ∃ r, s = '}' :: r)) :
    pluralBody? d (c :: s) = (pluralBody? (braceStep d c) s).map fun r => (c :: r.1, r.2) := by
  conv => lhs; unfold pluralBody?
  unfold braceStep
  by_cases ho : c = '{'
  · rw [if_pos ho, if_pos ho]
  · rw [if_neg ho, if_neg ho]
    by_cases hc : c = '}'
    · rw [if_pos hc, if_pos hc]
      cases d with
      | succ d => rfl
      | zero =>
        split
        · rename_i hd
          exact absurd hd (by omega)
        · exact absurd ⟨hc, rfl, _, rfl⟩ h
        · rfl
    · rw [if_neg hc, if_neg hc]

/-- Nothing is found where nothing closes the block. -/
theorem pluralBody?_eq_none_iff : pluralBody? d s = none ↔ ¬ Closes d s := by
  induction s generalizing d with
  | nil => simp [pluralBody?_nil, not_closes_nil]
  | cons c s ih =>
    by_cases h : c = '}' ∧ d = 0 ∧ ∃ r, s = '}' :: r
    · obtain ⟨rfl, rfl, r, rfl⟩ := h
      simp [pluralBody?, closes_here]
    · rw [pluralBody?_cons h, Option.map_eq_none_iff, ih, closes_cons_iff, or_iff_right h]

/-- **A block ends where two closing braces in a row are first met outside its braces.** -/
theorem pluralBody?_eq_some_iff :
    pluralBody? d s = some (body, rest) ↔
      s = body ++ '}' :: '}' :: rest ∧ braceDepth d body = 0 ∧ ¬ Closes d (body ++ ['}']) := by
  induction s generalizing d body with
  | nil => simp [pluralBody?_nil]
  | cons c s ih =>
    -- the block ends here, or one more character belongs to its body
    by_cases h : c = '}' ∧ d = 0 ∧ ∃ r, s = '}' :: r
    · obtain ⟨rfl, rfl, r, rfl⟩ := h
      have hr : pluralBody? 0 ('}' :: '}' :: r) = some ([], r) := by simp [pluralBody?]
      rw [hr]
      constructor
      · intro he
        obtain ⟨rfl, rfl⟩ := Prod.mk.inj (Option.some.inj he)
        refine ⟨rfl, rfl, ?_⟩
        rintro ⟨u, v, huv, -⟩
        have := congrArg List.length huv
        simp at this
        omega
      · rintro ⟨hs, -, hn⟩
        cases body with
        | nil => simpa using hs
        | cons a body =>
          simp only [List.cons_append, List.cons.injEq] at hs
          refine absurd (closes_cons_iff.2 (.inl ⟨hs.1.symm, rfl, ?_⟩)) hn
          cases body with
          | nil => exact ⟨[], rfl⟩
          | cons b body => exact ⟨_, congrArg (· :: _) (List.cons.inj hs.2).1.symm⟩
    · rw [pluralBody?_cons h, Option.map_eq_some_iff]
      constructor
      · rintro ⟨⟨body', rest'⟩, hb, he⟩
        obtain ⟨rfl, rfl⟩ := Prod.mk.inj he
        obtain ⟨rfl, hd, hn⟩ := ih.1 hb
        refine ⟨rfl, hd, fun hc => ?_⟩
        rcases closes_cons_iff.1 hc with ⟨rfl, rfl, r, hr⟩ | hc
        · refine h ⟨rfl, rfl, ?_⟩
          cases body' with
          | nil => exact ⟨_, rfl⟩
          | cons b body' => exact ⟨_, congrArg (· :: _) (List.cons.inj hr).1⟩
        · exact hn hc
      · rintro ⟨hs, hd, hn⟩
        cases body with
        | nil =>
          obtain ⟨rfl, rfl⟩ := List.cons.inj hs
          exact absurd ⟨rfl, hd, _, rfl⟩ h
        | cons a body =>
          obtain ⟨rfl, rfl⟩ := List.cons.inj hs
          exact ⟨(body, rest), ih.2 ⟨rfl, hd, fun hc => hn (closes_cons_iff.2 (.inr hc))⟩, rfl⟩

/-- The search for the end of a block goes on with the number of braces it has gone over. -/
theorem pluralBody?_of_append (h : pluralBody? d s = some (x ++ y, rest)) :
    pluralBody? (braceDepth d x) (y ++ '}' :: '}' :: rest) = some (y, rest) := by
  obtain ⟨-, hbalanced, hopen⟩ := pluralBody?_eq_some_iff.1 h
  rw [braceDepth_append] at hbalanced
  refine pluralBody?_eq_some_iff.2 ⟨rfl, hbalanced, fun hc => hopen ?_⟩
  rw [List.append_assoc]
  exact hc.append_left

/-- A body is read up to its end, whatever follows. -/
theorem IsPluralBody.pluralBody?_eq (h : IsPluralBody body) (rest : List Char) :
    pluralBody? 0 (body ++ '}' :: '}' :: rest) = some (body, rest) :=
  pluralBody?_eq_some_iff.2 ⟨rfl, isPluralBody_iff.1 h⟩

/-- Whether a plural block that stays open with `s` in the text behind it stays open with `t`
in its place, whatever stands around it and however many more braces are open. -/
def Loosens (s t : List Char) : Prop :=
  ∀ before after d e, d ≤ e → Closes e (before ++ t ++ after) → Closes d (before ++ s ++ after)

namespace Loosens

/-- A text can be exchanged for itself. -/
theorem refl (s : List Char) : Loosens s s := fun _ _ _ _ hde h => h.mono hde

/-- Exchanging one text after the other is exchanging a text. -/
theorem trans (h : Loosens s t) (h' : Loosens t u) : Loosens s u := fun before after d e hde hu =>
  h before after d d (Nat.le_refl d) (h' before after d e hde hu)

/-- Two texts in a row are exchanged by exchanging both. -/
theorem append (h : Loosens s t) (h' : Loosens s' t') : Loosens (s ++ s') (t ++ t') := by
  intro before after d e hde hc
  have h₁ := h' (before ++ t) after d e hde (by simpa using hc)
  simpa using h before (s' ++ after) d d (Nat.le_refl d) (by simpa using h₁)

/-- The same text may stand in front. -/
theorem append_left (p : List Char) (h : Loosens s t) : Loosens (p ++ s) (p ++ t) :=
  (refl p).append h

/-- The same text may stand behind. -/
theorem append_right (h : Loosens s t) (p : List Char) : Loosens (s ++ p) (t ++ p) :=
  h.append (refl p)

/-- The same character may stand in front. -/
theorem cons (c : Char) (h : Loosens s t) : Loosens (c :: s) (c :: t) := h.append_left [c]

/-- What closes a block with the second text closes it with the first. -/
theorem closes (h : Loosens s t) (hc : Closes d t) : Closes d s := by
  simpa using h [] [] d d (Nat.le_refl d) (by simpa using hc)

/-- A neutral character in front makes no difference to what closes. -/
theorem closes_of_bar (h : Loosens ('|' :: s) ('|' :: t)) (hc : Closes d t) : Closes d s := by
  have hbar {w : List Char} : Closes d ('|' :: w) ↔ Closes d w := closes_cons_of_ne (by decide)
  exact hbar.1 (h.closes (hbar.2 hc))

end Loosens

/-- **Exchanging balanced text for text without braces closes no block,** unless closing braces
could meet over it. -/
theorem loosens_exchange (hc : c ≠ '}') (hx : braceDepth 0 x = 0) (hy : BraceFree y) :
    Loosens (c :: x) (c :: y) := by
  intro before after d e hde h
  rw [List.append_assoc, List.cons_append, closes_append_cons_iff hc, closes_cons_of_ne hc,
    hy.closes_append_iff] at h
  rw [List.append_assoc, List.cons_append, closes_append_cons_iff hc, closes_cons_of_ne hc]
  rcases h with h | h
  · exact .inl (h.mono hde)
  · -- balanced text leaves no more braces open than there are without it
    have hstep := braceStep_mono (c := c) (braceDepth_mono hde before)
    have hle := braceDepth_le_of_balanced hx (braceStep (braceDepth d before) c)
    exact .inr (h.mono (Nat.le_trans hle hstep)).append_left

end Phrasebook
