/-
# Cutting what has been joined

A text that was put together with a separator that its parts do not have is cut into the
same parts again.
-/

import Phrasebook.Text.Pieces

namespace Phrasebook
namespace Text

variable {s p q : List Char} {c x : Char} {ps : List (List Char)}

/-- A text is not cut at a character that it does not have. -/
theorem cut_of_not_mem (h : c ∉ s) : cut c s = (s, none) := by
  induction s with
  | nil => rfl
  | cons x s ih =>
    have hx : x ≠ c := fun hx => h (by simp [hx])
    simp [cut, hx, ih fun hs => h (by simp [hs])]

/-- What has not got the character stays in front of the cut. -/
theorem cut_append (h : c ∉ p) (s : List Char) :
    cut c (p ++ s) = (p ++ (cut c s).1, (cut c s).2) := by
  induction p with
  | nil => rfl
  | cons x p ih =>
    have hx : x ≠ c := fun hx => h (by simp [hx])
    simp [cut, hx, ih fun hp => h (by simp [hp])]

/-- A text is cut at the first place where the character stands. -/
theorem cut_append_cons (h : c ∉ p) (s : List Char) : cut c (p ++ c :: s) = (p, some s) := by
  simp [cut_append h, cut]

/-- The text before a cut and the text behind it make up the whole. -/
theorem cut_eq_some (h : cut c s = (p, some q)) : s = p ++ c :: q ∧ c ∉ p := by
  induction s generalizing p with
  | nil => simp [cut] at h
  | cons x s ih =>
    by_cases hx : x = c
    · obtain ⟨rfl, rfl⟩ : [] = p ∧ s = q := by simpa [cut, hx] using h
      simp [hx]
    · obtain ⟨rfl, hq⟩ : x :: (cut c s).1 = p ∧ (cut c s).2 = some q := by simpa [cut, hx] using h
      obtain ⟨hs, hc⟩ := ih (p := (cut c s).1) (by rw [← hq])
      exact ⟨congrArg (x :: ·) hs, by simp [hc, Ne.symm hx]⟩

/-- Where nothing is cut off, the text has not got the character. -/
theorem cut_eq_none (h : cut c s = (p, none)) : s = p ∧ c ∉ p := by
  induction s generalizing p with
  | nil =>
    obtain rfl : [] = p := by simpa [cut] using h
    exact ⟨rfl, List.not_mem_nil⟩
  | cons x s ih =>
    by_cases hx : x = c
    · simp [cut, hx] at h
    · obtain ⟨rfl, hq⟩ : x :: (cut c s).1 = p ∧ (cut c s).2 = none := by simpa [cut, hx] using h
      obtain ⟨hs, hc⟩ := ih (p := (cut c s).1) (by rw [← hq])
      exact ⟨congrArg (x :: ·) hs, by simp [hc, Ne.symm hx]⟩

/-- A text without the character is one piece. -/
theorem pieces_of_not_mem (h : c ∉ s) : pieces c s = [s] := by
  induction s with
  | nil => rfl
  | cons x s ih =>
    have hx : x ≠ c := fun hx => h (by simp [hx])
    simp [pieces, hx, ih fun hs => h (by simp [hs])]

/-- The first piece ends where the character first stands. -/
theorem pieces_append_cons (h : c ∉ p) (s : List Char) :
    pieces c (p ++ c :: s) = p :: pieces c s := by
  induction p with
  | nil => simp [pieces]
  | cons x p ih =>
    have hx : x ≠ c := fun hx => h (by simp [hx])
    simp [pieces, hx, ih fun hp => h (by simp [hp])]

/-- A text with separators in front of more texts is cut into these texts. -/
theorem pieces_append_flatMap (hp : c ∉ p) (hps : ∀ q ∈ ps, c ∉ q) :
    pieces c (p ++ ps.flatMap (c :: ·)) = p :: ps := by
  induction ps generalizing p with
  | nil => simpa using pieces_of_not_mem hp
  | cons q ps ih =>
    rw [List.flatMap_cons, List.cons_append, pieces_append_cons hp,
      ih (hps q (by simp)) fun r hr => hps r (by simp [hr])]

/-- The characters of a piece come from the text, and none is a separator. -/
theorem mem_of_mem_pieces (h : p ∈ pieces c s) (hx : x ∈ p) : x ∈ s ∧ x ≠ c := by
  induction s generalizing p with
  | nil =>
    obtain rfl : p = [] := by simpa [pieces] using h
    cases hx
  | cons y s ih =>
    by_cases hy : y = c
    · rw [pieces, if_pos hy] at h
      rcases List.mem_cons.1 h with rfl | h
      · cases hx
      · exact ⟨.tail _ (ih h hx).1, (ih h hx).2⟩
    · rw [pieces, if_neg hy] at h
      cases hps : pieces c s with
      | nil => exact absurd hps (pieces_ne_nil c s)
      | cons q qs =>
        simp only [hps] at h ih
        rcases List.mem_cons.1 h with rfl | h
        · rcases List.mem_cons.1 hx with rfl | hx
          · exact ⟨.head _, hy⟩
          · exact ⟨.tail _ (ih (.head _) hx).1, (ih (.head _) hx).2⟩
        · exact ⟨.tail _ (ih (.tail _ h) hx).1, (ih (.tail _ h) hx).2⟩

/-- One piece joined is itself. -/
@[simp] theorem joined_singleton : joined c [p] = p := rfl

/-- Pieces are joined one after the other. -/
theorem joined_cons (h : ps ≠ []) : joined c (p :: ps) = p ++ c :: joined c ps := by
  cases ps with
  | nil => exact absurd rfl h
  | cons q ps => rfl

/-- Joined pieces are the first one and the others, each behind a character. -/
theorem joined_eq_append_flatMap (p : List Char) (ps : List (List Char)) :
    joined c (p :: ps) = p ++ ps.flatMap (c :: ·) := by
  induction ps generalizing p with
  | nil => simp
  | cons q ps ih => rw [joined_cons (by simp), ih, List.flatMap_cons, List.cons_append]

/-- **A text is cut into a first piece and others behind separators,** and no piece has a
separator. -/
theorem pieces_eq_cons_iff :
    pieces c s = p :: ps ↔ s = p ++ ps.flatMap (c :: ·) ∧ c ∉ p ∧ ∀ q ∈ ps, c ∉ q := by
  constructor
  · intro h
    have hfree (q : List Char) (hq : q ∈ p :: ps) : c ∉ q := fun hc =>
      (mem_of_mem_pieces (h ▸ hq) hc).2 rfl
    refine ⟨?_, hfree p (by simp), fun q hq => hfree q (by simp [hq])⟩
    rw [← joined_eq_append_flatMap, ← h, joined_pieces]
  · rintro ⟨rfl, hp, hps⟩
    exact pieces_append_flatMap hp hps

/-- Pieces of two lists are joined with one more character in between. -/
theorem joined_append {qs : List (List Char)} (hp : ps ≠ []) (hq : qs ≠ []) :
    joined c (ps ++ qs) = joined c ps ++ c :: joined c qs := by
  induction ps with
  | nil => exact absurd rfl hp
  | cons p ps ih =>
    cases ps with
    | nil => exact joined_cons hq
    | cons r ps =>
      rw [List.cons_append, joined_cons (by simp), ih (by simp)]
      simp [joined]

/-- A text without the separator that another text starts with ends before the separator. -/
theorem isPrefix_of_not_mem (h : c ∉ q) (hq : q <+: p ++ c :: s) : q <+: p := by
  have hp : p ++ [c] <+: p ++ c :: s := ⟨s, by simp⟩
  rcases List.prefix_or_prefix_of_prefix hq hp with hqp | hpq
  · rcases List.prefix_concat_iff.1 hqp with rfl | hqp
    · exact absurd (by simp) h
    · exact hqp
  · exact absurd (hpq.subset (by simp)) h

end Text
end Phrasebook
