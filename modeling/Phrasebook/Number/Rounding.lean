/-
# Rounding a quotient

`nearestEven` rounds a quotient of natural numbers to the nearest natural number; half
way between two of them it takes the even one.
-/

namespace Phrasebook

/-- The natural number nearest to `num / den`, the even one of two. -/
def nearestEven (num den : Nat) : Nat :=
  let q := num / den
  let r := num % den
  if 2 * r < den then q
  else if den < 2 * r then q + 1
  else q + q % 2

/-- A quotient without a remainder is not rounded. -/
theorem nearestEven_mul (n : Nat) {den : Nat} (h : 0 < den) : nearestEven (n * den) den = n := by
  simp [nearestEven, Nat.mul_div_cancel _ h, Nat.mul_mod_left, h]

/-- **The result is within half a unit of the quotient.** -/
theorem nearestEven_bounds (num : Nat) {den : Nat} (h : 0 < den) :
    2 * (den * nearestEven num den) ≤ 2 * num + den ∧
      2 * num ≤ 2 * (den * nearestEven num den) + den := by
  have hq := Nat.div_add_mod num den
  have hr := Nat.mod_lt num h
  have hsucc (n : Nat) : den * (n + 1) = den * n + den := Nat.mul_succ den n
  unfold nearestEven
  simp only
  split
  · omega
  · split
    · rw [hsucc]
      omega
    · rcases Nat.mod_two_eq_zero_or_one (num / den) with h2 | h2
      · rw [h2, Nat.add_zero]
        omega
      · rw [h2, hsucc]
        omega

end Phrasebook
