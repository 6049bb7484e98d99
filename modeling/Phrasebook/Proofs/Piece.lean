/-
# The pieces of a body

A piece is a text whose braces are all closed and that has no bar outside its braces. The
body of a plural block is cut into pieces (`isPiece_of_mem_formTexts`), and pieces that are
joined with bars are cut again where they were joined (`formTexts_joined`).

Writing one piece after the other in a looser way writes the whole body in a looser way
(`loosens_joined`).
-/

import Phrasebook.Proofs.Braces
import Phrasebook.Proofs.Text.Cutting
import Phrasebook.Template.Form
import Mathlib.Data.List.Forall2

namespace Phrasebook

variable {s t p b : List Char} {c : Char} {d : Nat} {ps qs : List (List Char)}

/-- Whether a text has no bar outside its braces, if `d` braces are open before it. -/
def Unbarred (d : Nat) (s : List Char) : Prop :=
  ∀ u v, s = u ++ '|' :: v → braceDepth d u ≠ 0

/-- An empty text has no bar. -/
theorem unbarred_nil : Unbarred d [] := fun u v h => by simp at h

/-- A text has no bar outside its braces if its first character is none, or stands inside, and the
rest has none. -/
theorem unbarred_cons_iff :
    Unbarred d (c :: s) ↔ ¬ (c = '|' ∧ d = 0) ∧ Unbarred (braceStep d c) s := by
  constructor
  · intro h
    refine ⟨fun hc => h [] s (by rw [hc.1]; rfl) hc.2, fun u v huv => ?_⟩
    exact h (c :: u) v (by rw [huv]; rfl)
  · rintro ⟨hc, h⟩ u v huv
    cases u with
    | nil => exact fun hd => hc ⟨(List.cons.inj huv).1, hd⟩
    | cons a u =>
      obtain ⟨rfl, rfl⟩ := List.cons.inj huv
      exact h u v rfl

/-- Two texts in a row have no bar outside the braces exactly if both have none. -/
theorem unbarred_append_iff :
    Unbarred d (s ++ t) ↔ Unbarred d s ∧ Unbarred (braceDepth d s) t := by
  induction s generalizing d with
  | nil => simp [unbarred_nil]
  | cons c s ih =>
    rw [List.cons_append, unbarred_cons_iff, unbarred_cons_iff, ih, and_assoc]
    rfl

/-- A text without any bar has none outside its braces. -/
theorem unbarred_of_not_mem (h : '|' ∉ s) : Unbarred d s := by
  rintro u v rfl
  exact absurd (by simp) h

/-- A text whose braces are all closed, without a bar outside them. -/
structure IsPiece (s : List Char) : Prop where
  balanced : braceDepth 0 s = 0
  unbarred : Unbarred 0 s

namespace IsPiece

/-- The empty text is a piece. -/
theorem nil : IsPiece [] := ⟨rfl, unbarred_nil⟩

/-- Two pieces in a row are a piece. -/
theorem append (hs : IsPiece s) (ht : IsPiece t) : IsPiece (s ++ t) :=
  ⟨by rw [braceDepth_append, hs.balanced, ht.balanced],
    unbarred_append_iff.2 ⟨hs.unbarred, hs.balanced.symm ▸ ht.unbarred⟩⟩

/-- A text without braces and bars is a piece. -/
theorem of_braceFree (hs : BraceFree s) (hb : '|' ∉ s) : IsPiece s :=
  ⟨hs.braceDepth_eq 0, unbarred_of_not_mem hb⟩

/-- What is left of a piece behind text without braces is a piece. -/
theorem of_append (hs : BraceFree s) (h : IsPiece (s ++ t)) : IsPiece t := by
  have hd := h.balanced
  have hu := (unbarred_append_iff.1 h.unbarred).2
  rw [braceDepth_append, hs.braceDepth_eq] at hd
  rw [hs.braceDepth_eq] at hu
  exact ⟨hd, hu⟩

end IsPiece

/-- An empty text is cut into one empty piece. -/
theorem topLevelPieces_nil : topLevelPieces '|' d [] = [[]] := by cases d <;> rfl

/-- A bar outside all braces ends a piece. -/
theorem topLevelPieces_bar : topLevelPieces '|' 0 ('|' :: s) = [] :: topLevelPieces '|' 0 s := by
  simp [topLevelPieces]

/-- The braces are counted as at the end of a plural block. -/
theorem topLevelPieces_cons (h : ¬ (c = '|' ∧ d = 0)) :
    topLevelPieces '|' d (c :: s) = consFirst c (topLevelPieces '|' (braceStep d c) s) := by
  conv => lhs; unfold topLevelPieces
  unfold braceStep
  by_cases ho : c = '{'
  · rw [if_pos ho, if_pos ho]
  · rw [if_neg ho, if_neg ho, if_neg h]
    by_cases hc : c = '}'
    · rw [if_pos hc]
      split
      · rfl
      · rename_i hd
        have : d = 0 := by simpa [hc] using hd
        rw [this]
    · rw [if_neg (fun hx => hc hx.1), if_neg hc]

/-- A text without a bar outside its braces is not cut. -/
theorem topLevelPieces_of_unbarred (h : Unbarred d p) : topLevelPieces '|' d p = [p] := by
  induction p generalizing d with
  | nil => exact topLevelPieces_nil
  | cons c p ih =>
    obtain ⟨hc, h⟩ := unbarred_cons_iff.1 h
    rw [topLevelPieces_cons hc, ih h]
    rfl

/-- The first bar behind closed braces is where the text is cut. -/
theorem topLevelPieces_append_bar (h : Unbarred d p) (hd : braceDepth d p = 0) (s : List Char) :
    topLevelPieces '|' d (p ++ '|' :: s) = p :: topLevelPieces '|' 0 s := by
  induction p generalizing d with
  | nil =>
    obtain rfl : d = 0 := hd
    exact topLevelPieces_bar
  | cons c p ih =>
    obtain ⟨hc, h⟩ := unbarred_cons_iff.1 h
    rw [List.cons_append, topLevelPieces_cons hc, ih h hd]
    rfl

/-- Cutting goes on with the number of braces it has gone over: what is cut off the rest of a text
continues the last of the pieces before. -/
theorem exists_topLevelPieces_append (d : Nat) (s t : List Char) :
    ∃ ps p, topLevelPieces '|' d s = ps ++ [p] ∧ topLevelPieces '|' d (s ++ t) =
      ps ++ p.foldr consFirst (topLevelPieces '|' (braceDepth d s) t) := by
  induction s generalizing d with
  | nil => exact ⟨[], [], topLevelPieces_nil, rfl⟩
  | cons c s ih =>
    by_cases hc : c = '|' ∧ d = 0
    · obtain ⟨rfl, rfl⟩ := hc
      obtain ⟨ps, p, hs, hst⟩ := ih 0
      refine ⟨[] :: ps, p, ?_, ?_⟩
      · rw [topLevelPieces_bar, hs]
        rfl
      · rw [List.cons_append, topLevelPieces_bar, hst]
        rfl
    · obtain ⟨ps, p, hs, hst⟩ := ih (braceStep d c)
      rw [List.cons_append, topLevelPieces_cons hc, topLevelPieces_cons hc, hs, hst]
      cases ps with
      | nil => exact ⟨[], c :: p, rfl, rfl⟩
      | cons q qs => exact ⟨(c :: q) :: qs, p, rfl, rfl⟩

/-- **Joined pieces are cut where they were joined.** -/
theorem formTexts_joined (hne : ps ≠ []) (h : ∀ p ∈ ps, IsPiece p) :
    formTexts (Text.joined '|' ps) = ps := by
  unfold formTexts
  induction ps with
  | nil => exact absurd rfl hne
  | cons p ps ih =>
    have hp := h p (by simp)
    cases ps with
    | nil => exact topLevelPieces_of_unbarred hp.unbarred
    | cons q ps =>
      rw [Text.joined_cons (by simp), topLevelPieces_append_bar hp.unbarred hp.balanced,
        ih (by simp) fun r hr => h r (.tail _ hr)]

/-- Where the first piece ends and what the pieces are, if `d` braces are open. -/
theorem topLevelPieces_spec (h : topLevelPieces '|' d s = p :: ps) :
    Unbarred d p ∧ (ps = [] → braceDepth d p = braceDepth d s) ∧
      (ps ≠ [] → braceDepth d p = 0 ∧
        ∃ r, topLevelPieces '|' 0 r = ps ∧ braceDepth 0 r = braceDepth d s) := by
  induction s generalizing d p with
  | nil =>
    rw [topLevelPieces_nil] at h
    obtain ⟨rfl, rfl⟩ := List.cons.inj h
    exact ⟨unbarred_nil, fun _ => rfl, fun hn => absurd rfl hn⟩
  | cons c s ih =>
    by_cases hc : c = '|' ∧ d = 0
    · obtain ⟨rfl, rfl⟩ := hc
      rw [topLevelPieces_bar] at h
      obtain ⟨rfl, rfl⟩ := List.cons.inj h
      refine ⟨unbarred_nil, fun hn => ?_, fun _ => ⟨rfl, s, rfl, rfl⟩⟩
      exact absurd hn (topLevelPieces_ne_nil _ _ _)
    · rw [topLevelPieces_cons hc] at h
      cases hs : topLevelPieces '|' (braceStep d c) s with
      | nil => exact absurd hs (topLevelPieces_ne_nil _ _ _)
      | cons q qs =>
        rw [hs] at h
        obtain ⟨rfl, rfl⟩ := List.cons.inj h
        obtain ⟨hu, hnil, hcons⟩ := ih hs
        exact ⟨unbarred_cons_iff.2 ⟨hc, hu⟩, hnil, hcons⟩

/-- **A balanced body is cut into pieces.** -/
theorem isPiece_of_mem_formTexts (hb : braceDepth 0 b = 0) (h : p ∈ formTexts b) : IsPiece p := by
  unfold formTexts at h
  generalize hps : topLevelPieces '|' 0 b = ps at h
  induction ps generalizing b with
  | nil => cases h
  | cons q ps ih =>
    obtain ⟨hu, hnil, hcons⟩ := topLevelPieces_spec hps
    rcases List.mem_cons.1 h with rfl | h
    · refine ⟨?_, hu⟩
      by_cases hn : ps = []
      · rw [hnil hn, hb]
      · exact (hcons hn).1
    · obtain ⟨-, r, hr, hd⟩ := hcons (List.ne_nil_of_mem h)
      exact ih (hd.trans hb) hr h

/-- A body has one text at least. -/
theorem formTexts_ne_nil (b : List Char) : formTexts b ≠ [] := topLevelPieces_ne_nil _ _ _

/-- The texts of a body joined by bars are the body. -/
theorem joined_formTexts (b : List Char) : Text.joined '|' (formTexts b) = b :=
  joined_topLevelPieces _ _ _

/-- Texts that close their braces close them when joined, too. -/
theorem braceDepth_joined (h : ∀ p ∈ ps, braceDepth 0 p = 0) :
    braceDepth 0 (Text.joined '|' ps) = 0 := by
  induction ps with
  | nil => rfl
  | cons p ps ih =>
    have ih := ih fun q hq => h q (.tail _ hq)
    cases ps with
    | nil => exact h p (by simp)
    | cons q ps =>
      rw [Text.joined_cons (by simp), braceDepth_append, h p (by simp), braceDepth_cons]
      exact ih

/-- Balanced texts are balanced up to the last of them. -/
theorem exists_joined_concat (h : ∀ p ∈ ps, braceDepth 0 p = 0) :
    ∃ x, braceDepth 0 x = 0 ∧ Text.joined '|' (ps ++ [t]) = x ++ t := by
  induction ps with
  | nil => exact ⟨[], rfl, rfl⟩
  | cons p ps ih =>
    obtain ⟨x, hx, he⟩ := ih fun q hq => h q (.tail _ hq)
    refine ⟨p ++ '|' :: x, ?_, ?_⟩
    · rw [braceDepth_append, h p (by simp), braceDepth_cons]
      exact hx
    · rw [List.cons_append, Text.joined_cons (by simp), he]
      simp

/-- Whether a text can be exchanged for another one behind any character but a closing brace. -/
def LoosensBehind (s t : List Char) : Prop := ∀ c, c ≠ '}' → Loosens (c :: s) (c :: t)

namespace LoosensBehind

/-- A text that can be exchanged anywhere can be exchanged behind a character. -/
theorem of_loosens (h : Loosens s t) : LoosensBehind s t := fun c _ => h.cons c

/-- Exchanging one text after the other is exchanging a text. -/
theorem trans {u : List Char} (h : LoosensBehind s t) (h' : LoosensBehind t u) :
    LoosensBehind s u := fun c hc => (h c hc).trans (h' c hc)

/-- What stands in front may be exchanged as well if it is balanced and gets no braces. -/
theorem exchange {x y : List Char} (hx : braceDepth 0 x = 0) (hy : BraceFree y)
    (h : Loosens s t) : LoosensBehind (x ++ s) (y ++ t) := fun _ hc =>
  (loosens_exchange hc hx hy).append h

/-- A block that is still open at the end of a text is so at the end of one that it is exchanged
for. -/
theorem not_closes (h : LoosensBehind s t) (hs : ¬ Closes 0 (s ++ ['}'])) :
    ¬ Closes 0 (t ++ ['}']) := fun hc =>
  hs (((h '|' (by decide)).append_right ['}']).closes_of_bar hc)

end LoosensBehind

/-- **Pieces that are written in a looser way make up a looser body.** -/
theorem loosens_joined (h : List.Forall₂ LoosensBehind ps qs) :
    LoosensBehind (Text.joined '|' ps) (Text.joined '|' qs) := by
  induction h with
  | nil => exact .of_loosens (.refl _)
  | @cons p q ps qs hpq hr ih =>
    cases hr with
    | nil => exact hpq
    | cons hpq' hr' =>
      intro c hc
      rw [Text.joined_cons (List.cons_ne_nil _ _) (c := '|') (p := p),
        Text.joined_cons (List.cons_ne_nil _ _) (c := '|') (p := q)]
      exact (hpq c hc).append (ih '|' (by decide))

end Phrasebook
