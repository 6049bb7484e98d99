/-
# Cutting and replacing text

`cut` takes a text apart at the first occurrence of a character, `pieces` at every
occurrence, and `joined` puts pieces together again with the separator between them.
`replace` exchanges every occurrence of one text for another; an empty search text occurs
before every character and at the end.
-/

namespace Phrasebook
namespace Text

/-- The text before the first `c`, and the text after it if there is a `c`. -/
def cut (c : Char) : List Char → List Char × Option (List Char)
  | [] => ([], none)
  | x :: s =>
    if x = c then ([], some s)
    else
      let r := cut c s
      (x :: r.1, r.2)

/-- The pieces between the occurrences of `c`; one more than there are occurrences. -/
def pieces (c : Char) : List Char → List (List Char)
  | [] => [[]]
  | x :: s =>
    if x = c then [] :: pieces c s
    else
      match pieces c s with
      | [] => [[x]]
      | p :: ps => (x :: p) :: ps

/-- The pieces one after the other, with the separator between neighbours. -/
def joined (c : Char) : List (List Char) → List Char
  | [] => []
  | [p] => p
  | p :: q :: ps => p ++ c :: joined c (q :: ps)

/-- The rest of `s` after `search`, if `s` starts with it. -/
def after? : (search s : List Char) → Option (List Char)
  | [], s => some s
  | _ :: _, [] => none
  | x :: search, y :: s => if x = y then after? search s else none

/-- What follows a match is the text without the matched part. -/
theorem after?_eq_some {search s r : List Char} (h : after? search s = some r) :
    s = search ++ r := by
  induction search generalizing s with
  | nil => simpa [after?] using h
  | cons x search ih =>
    cases s with
    | nil => simp [after?] at h
    | cons y s =>
      by_cases hxy : x = y
      · simp only [after?, hxy, if_true] at h
        simp [hxy, ih h]
      · simp [after?, hxy] at h

/-- Less follows a match of a nonempty text than there was. -/
theorem length_of_after?_cons {x : Char} {search s r : List Char}
    (h : after? (x :: search) s = some r) : r.length < s.length := by
  rw [after?_eq_some h, List.length_append, List.length_cons]
  omega

/-- Every occurrence of the nonempty text `x :: search` exchanged, from the left,
occurrences never overlapping. -/
def replaceNonempty (x : Char) (search replacement : List Char) : List Char → List Char
  | [] => []
  | y :: s =>
    match _h : after? (x :: search) (y :: s) with
    | some r => replacement ++ replaceNonempty x search replacement r
    | none => y :: replaceNonempty x search replacement s
  termination_by s => s.length
  decreasing_by
    · exact length_of_after?_cons _h
    · exact Nat.lt_succ_self _

/-- Every occurrence of `search` exchanged for `replacement`. -/
def replace (search replacement s : List Char) : List Char :=
  match search with
  | [] => s.flatMap (fun c => replacement ++ [c]) ++ replacement
  | x :: search => replaceNonempty x search replacement s

/-- A text is cut into one piece at least. -/
theorem pieces_ne_nil (c : Char) (s : List Char) : pieces c s ≠ [] := by
  cases s with
  | nil => simp [pieces]
  | cons x s =>
    unfold pieces
    split
    · simp
    · split <;> simp

/-- Cutting at every separator loses nothing but the separators. -/
theorem joined_pieces (c : Char) (s : List Char) : joined c (pieces c s) = s := by
  induction s with
  | nil => rfl
  | cons x s ih =>
    unfold pieces
    split
    · rename_i hx
      cases hp : pieces c s with
      | nil => exact absurd hp (pieces_ne_nil c s)
      | cons p ps => simp [joined, ← hp, ih, hx]
    · split
      · rename_i hp
        exact absurd hp (pieces_ne_nil c s)
      · rename_i p ps hp
        rw [hp] at ih
        cases ps with
        | nil => simpa [joined] using ih
        | cons q qs => simpa [joined] using ih

end Text
end Phrasebook
