/-
# Outcomes

When a step of `Except` that is applied to an outcome has a result or an error, and where
the results of a list of steps come from.
-/

import Mathlib.Data.List.Forall2

namespace Phrasebook

variable {ε α β : Type} {f : α → β} {r : Except ε α} {b : β} {e : ε}

/-- A function of an outcome is applied to what comes out. -/
@[simp] theorem map_ok (f : α → β) (a : α) : (Except.ok a : Except ε α).map f = .ok (f a) := rfl

/-- A function of an outcome keeps the error. -/
@[simp] theorem map_error (f : α → β) (e : ε) :
    (Except.error e : Except ε α).map f = .error e := rfl

/-- What comes out of a function of an outcome is the image of what comes out. -/
theorem map_eq_ok_iff : r.map f = .ok b ↔ ∃ a, r = .ok a ∧ f a = b := by
  cases r <;> simp

/-- A function of an outcome fails exactly as the outcome does. -/
theorem map_eq_error_iff : r.map f = .error e ↔ r = .error e := by
  cases r <;> simp

/-- A function of the error changes nothing that comes out. -/
theorem mapError_eq_ok_iff {δ : Type} {g : ε → δ} {a : α} : r.mapError g = .ok a ↔ r = .ok a := by
  cases r <;> simp [Except.mapError]

/-- Two steps succeed exactly if the first one does and then the second one. -/
theorem bind_eq_ok_iff {g : α → Except ε β} : r.bind g = .ok b ↔ ∃ a, r = .ok a ∧ g a = .ok b := by
  cases r <;> simp [Except.bind]

/-- Whatever is related to an element of the second list by its place is in the first. -/
theorem exists_mem_of_forall₂ {α β : Type} {R : α → β → Prop} {l : List α} {m : List β} {y : β}
    (h : List.Forall₂ R l m) (hy : y ∈ m) : ∃ x ∈ l, R x y := by
  induction h with
  | nil => cases hy
  | cons hR _ ih =>
    rcases List.mem_cons.1 hy with rfl | hy
    · exact ⟨_, by simp, hR⟩
    · obtain ⟨x, hx, hxy⟩ := ih hy
      exact ⟨x, .tail _ hx, hxy⟩

/-- Whatever is at a place of the first list is related to what is at this place of the second. -/
theorem exists_getElem?_of_forall₂ {α β : Type} {R : α → β → Prop} {l : List α} {m : List β}
    {n : Nat}
    {x : α} (h : List.Forall₂ R l m) (hx : l[n]? = some x) : ∃ y, m[n]? = some y ∧ R x y := by
  induction h generalizing n with
  | nil => simp at hx
  | cons hR _ ih =>
    cases n with
    | zero =>
      obtain rfl := Option.some.inj hx
      exact ⟨_, rfl, hR⟩
    | succ n => exact ih hx

/-- Of lists that are related by place, the last elements are related if one of the lists has
one. -/
theorem forall₂_concat_left_iff {α β : Type} {R : α → β → Prop} {l : List α} {x : α} {m : List β} :
    List.Forall₂ R (l ++ [x]) m ↔ ∃ m' y, m = m' ++ [y] ∧ List.Forall₂ R l m' ∧ R x y := by
  induction l generalizing m with
  | nil =>
    rw [List.nil_append, List.forall₂_cons_left_iff]
    constructor
    · rintro ⟨y, m', hxy, h, rfl⟩
      obtain rfl := List.forall₂_nil_left_iff.1 h
      exact ⟨[], y, rfl, .nil, hxy⟩
    · rintro ⟨m', y, rfl, h, hxy⟩
      obtain rfl := List.forall₂_nil_left_iff.1 h
      exact ⟨y, [], hxy, .nil, rfl⟩
  | cons a l ih =>
    simp only [List.cons_append, List.forall₂_cons_left_iff, ih]
    constructor
    · rintro ⟨b, _, hab, ⟨m', y, rfl, h, hxy⟩, rfl⟩
      exact ⟨b :: m', y, rfl, ⟨b, m', hab, h, rfl⟩, hxy⟩
    · rintro ⟨_, y, rfl, ⟨b, m', hab, h, rfl⟩, hxy⟩
      exact ⟨b, m' ++ [y], hab, ⟨m', y, rfl, h, hxy⟩, rfl⟩

end Phrasebook
