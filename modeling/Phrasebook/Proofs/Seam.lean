/-
# Texts in a row

Where two texts stand in a row, what is read from them are the segments of both, with the two
literals that may meet between them made one (`seam`). For this no segment of the first text may go
on over its end (`Segment.Segmentation.seam`): a placeholder ends where it did before, whatever
follows (`TemplatePlaceholder.read_append`), and a brace that opens nothing still opens nothing if
no brace follows (`TemplatePlaceholder.read_append_of_none`).
-/

import Phrasebook.Proofs.Respelling

namespace Phrasebook

section Seam

variable {β γ : Type} {merge? : β → β → Option β} {x : β} {xs ys : List β}

/-- Two lists in a row; the last element of the first and the first element of the second are made
one if they can be merged. -/
def seam (merge? : β → β → Option β) : List β → List β → List β
  | [], ys => ys
  | [x], [] => [x]
  | [x], y :: ys =>
    match merge? x y with
    | some z => z :: ys
    | none => x :: y :: ys
  | x :: x' :: xs, ys => x :: seam merge? (x' :: xs) ys

/-- A seam is at the end of the first list. -/
theorem cons_seam (h : xs ≠ []) : seam merge? (x :: xs) ys = x :: seam merge? xs ys := by
  cases xs with
  | nil => exact absurd rfl h
  | cons y xs => rfl

/-- Elements that cannot be merged stay apart. -/
theorem singleton_seam (h : ∀ y ∈ ys.head?, merge? x y = none) : seam merge? [x] ys = x :: ys := by
  cases ys with
  | nil => rfl
  | cons y ys => simp only [seam, h y rfl]

/-- What does not tell merged elements from the two elements in a row does not see the seam. -/
theorem apply_seam {f : List β → γ} (hcons : ∀ x xs ys, f xs = f ys → f (x :: xs) = f (x :: ys))
    (hmerge : ∀ x y z ys, merge? x y = some z → f (z :: ys) = f (x :: y :: ys)) (xs ys : List β) :
    f (seam merge? xs ys) = f (xs ++ ys) := by
  induction xs with
  | nil => rfl
  | cons x xs ih =>
    cases xs with
    | cons x' xs => exact hcons x _ _ ih
    | nil =>
      cases ys with
      | nil => rfl
      | cons y ys =>
        unfold seam
        split
        · rename_i z hz
          exact hmerge x y z ys hz
        · rfl

end Seam

namespace Segment

variable {α : Type} {opener : Opener α} {a b l m rest : List Char} {xs ys : List (Segment α)}

/-- Two literals are one literal. -/
def merge? : Segment α → Segment α → Option (Segment α)
  | .literal l, .literal m => some (.literal (l ++ m))
  | _, _ => none

/-- The segments of a text that is all literal. -/
def ofLiteral (l : List Char) : List (Segment α) := if l = [] then [] else [.literal l]

/-- The segments of two texts in a row. -/
def seam (xs ys : List (Segment α)) : List (Segment α) := Phrasebook.seam merge? xs ys

/-- What stands behind a list does not matter for its start. -/
theorem startsLiteral_seam (h : xs ≠ []) : startsLiteral (seam xs ys) = startsLiteral xs := by
  cases xs with
  | nil => exact absurd rfl h
  | cons x xs =>
    cases xs with
    | cons x' xs => cases x <;> rfl
    | nil =>
      cases ys with
      | nil => rfl
      | cons y ys => cases x <;> cases y <;> rfl

/-- Two literals in a row open nothing if neither does. -/
theorem Unopened.append (hl : Unopened opener l (m ++ rest)) (hm : Unopened opener m rest) :
    Unopened opener (l ++ m) rest := by
  induction l with
  | nil => exact hm
  | cons c l ih =>
    refine .cons (fun hc => ?_) (ih hl.tail)
    show opener.read (l ++ m ++ rest) = .ok none
    rw [List.append_assoc]
    exact hl [] l (by rw [hc]; rfl)

/-- The segment of a literal text is this text. -/
theorem eq_of_mem_ofLiteral (h : .literal m ∈ (ofLiteral l : List (Segment α))) : m = l := by
  unfold ofLiteral at h
  split at h
  · cases h
  · exact Segment.literal.inj (List.mem_singleton.1 h)

namespace Segmentation

/-- A text without opening braces is cut into itself. -/
theorem ofLiteral (l : List Char) (hl : '{' ∉ l) : Segmentation opener l (Segment.ofLiteral l) := by
  unfold Segment.ofLiteral
  split
  · rename_i he
    rw [he]
    exact .nil
  · rename_i hne
    have h : Segmentation opener (l ++ []) [.literal l] := .literal hne rfl (.of_not_mem hl) .nil
    rwa [List.append_nil] at h

/-- A literal in front of a text becomes one with a literal that the text starts with. -/
theorem literal_seam (hb : Segmentation opener b ys) (hne : l ≠ []) (hl : Unopened opener l b) :
    Segmentation opener (l ++ b) (seam [.literal l] ys) := by
  cases hb with
  | nil => exact .literal hne rfl hl .nil
  | @literal m rest ys hm hs hopen hr =>
    rw [← List.append_assoc]
    exact .literal (by simp [hne]) hs (hl.append hopen) hr
  | placeholder hx hr => exact .literal hne rfl hl (.placeholder hx hr)

/-- **Two texts in a row have the segments of both,** if no placeholder that is read in the first
one ends elsewhere and no brace of its literals opens anything now. -/
theorem seam (ha : Segmentation opener a xs) (hb : Segmentation opener b ys)
    (hread : ∀ s x rest, opener.read s = .ok (some (x, rest)) →
      opener.read (s ++ b) = .ok (some (x, rest ++ b)))
    (hopen : ∀ l, .literal l ∈ xs → ∀ rest, Unopened opener l rest →
      Unopened opener l (rest ++ b)) :
    Segmentation opener (a ++ b) (Segment.seam xs ys) := by
  induction ha with
  | nil => exact hb
  | @literal l rest segments hne hs hl hr ih =>
    have hl' := hopen l (.head _) rest hl
    have ih := ih fun m hm => hopen m (.tail _ hm)
    rw [List.append_assoc]
    by_cases hlast : segments = []
    · subst hlast
      cases hr
      exact hb.literal_seam hne hl'
    · rw [Segment.seam, cons_seam hlast]
      exact .literal hne ((startsLiteral_seam hlast).trans hs) hl' ih
  | @placeholder s rest x segments hx hr ih =>
    have ih := ih fun m hm => hopen m (.tail _ hm)
    have hx' := hread s x rest hx
    rw [List.cons_append, Segment.seam]
    by_cases hlast : segments = []
    · subst hlast
      cases hr
      rw [singleton_seam fun y _ => rfl]
      exact .placeholder hx' hb
    · rw [cons_seam hlast]
      exact .placeholder hx' ih

end Segmentation

end Segment

namespace TemplatePlaceholder

variable {s b rest : List Char} {x : TemplatePlaceholder}

/-- **A placeholder ends where it did before, whatever follows.** -/
theorem read_append (h : TemplatePlaceholder.read s = .ok (some (x, rest))) (b : List Char) :
    TemplatePlaceholder.read (s ++ b) = .ok (some (x, rest ++ b)) := by
  obtain ⟨slice, hslice, he⟩ := read_eq_some_iff.1 h
  refine read_eq_some_iff.2 ⟨slice, hslice, ?_⟩
  rw [← List.cons_append, he, List.append_assoc]

/-- Text without braces behind a block that is not closed does not close it. -/
theorem readPlural_append_of_none (hb : BraceFree b) (h : readPlural s = none) :
    readPlural (s ++ b) = none := by
  cases s with
  | nil =>
    refine readPlural_of_ne ?_
    rintro r rfl
    exact (hb '{' (by simp)).1 rfl
  | cons c s =>
    by_cases hc : c = '{'
    · subst hc
      have hnone : pluralBody? 0 s = none := h
      show pluralBody? 0 (s ++ b) = none
      rw [pluralBody?_eq_none_iff] at hnone ⊢
      rwa [hb.closes_append_right_iff]
    · exact readPlural_of_ne fun r hr => hc (List.cons.inj hr).1

/-- **A brace that opens nothing opens nothing if no brace follows.** -/
theorem read_append_of_none (hb : BraceFree b) (h : TemplatePlaceholder.read s = .ok none) :
    TemplatePlaceholder.read (s ++ b) = .ok none := by
  obtain ⟨hplural, hargument⟩ := read_eq_none_iff.1 h
  refine read_eq_none_iff.2 ⟨readPlural_append_of_none hb hplural, ?_⟩
  rwa [readArgument_append_eq_none_iff hb.braced?_eq_none]

/-- Text without braces behind a literal that opens nothing opens nothing in it. -/
theorem unopened_append {l : List Char} (hb : BraceFree b)
    (h : Segment.Unopened TemplatePlaceholder.opener l rest) :
    Segment.Unopened TemplatePlaceholder.opener l (rest ++ b) := by
  intro u v huv
  rw [← List.append_assoc]
  exact read_append_of_none hb (h u v huv)

/-- **Two texts in a row have the segments of both,** if no brace of the first one is left literal
or the second one has no braces. -/
theorem segmentation_seam {a b : List Char} {xs ys : List (Segment TemplatePlaceholder)}
    (ha : Segment.Segmentation TemplatePlaceholder.opener a xs)
    (hb : Segment.Segmentation TemplatePlaceholder.opener b ys)
    (h : (∀ l, Segment.literal l ∈ xs → '{' ∉ l) ∨ BraceFree b) :
    Segment.Segmentation TemplatePlaceholder.opener (a ++ b) (Segment.seam xs ys) := by
  refine ha.seam hb (fun s x rest hx => read_append hx b) fun l hl rest hopen => ?_
  rcases h with hfree | hb
  · exact .of_not_mem (hfree l hl)
  · exact unopened_append hb hopen

end TemplatePlaceholder

end Phrasebook
