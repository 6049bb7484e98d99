/-
# The value of a number

A finite number of any kind denotes a rational number, its value (`Number.value?`): an integer
itself, a binary number its significand times a power of two, a decimal its coefficient times a
power of ten. The sign of a zero and trailing zeros are not seen in it.

What is said of numbers by their kind is so said of their values. The zeros are the numbers with
the value zero (`isZero_eq_true_iff`), the finite numbers are those that have a value, and the
test for them has no answer just for the integers that are out of the range of binary numbers
(`isFinite_eq_ok`, `isFinite_eq_error_iff`). Numbers are the same exactly if they have the
same value (`same_eq_true_iff`), because lowest terms are unique (`eq_of_isLowest`).
-/

import Phrasebook.Number.Basic
import Mathlib

namespace Phrasebook

variable {negative : Bool} {c rank : Nat} {e : Int} {q r : ℚ}

/-- A magnitude with a sign. -/
def signed (negative : Bool) (magnitude : ℚ) : ℚ := if negative then -magnitude else magnitude

/-- With or without a sign, only zero is zero. -/
@[simp] theorem signed_eq_zero_iff : signed negative q = 0 ↔ q = 0 := by
  unfold signed
  split <;> simp

/-- A power of two in the notation of algebra. -/
theorem twoTo_eq (n : Nat) : twoTo n = 2 ^ n := rfl

/-- A power of five in the notation of algebra. -/
theorem fiveTo_eq (n : Nat) : fiveTo n = 5 ^ n := rfl

namespace Binary64

/-- The magnitude of a rank. -/
def magnitude (rank : Nat) : ℚ := significand rank * (2 : ℚ) ^ exponent rank

/-- Only the least rank has the significand zero. -/
theorem significand_eq_zero_iff : significand rank = 0 ↔ rank = 0 := by
  have hbase : 0 < twoTo 52 := by decide
  unfold significand
  split
  · rfl
  · rename_i hrank
    have hlarge : twoTo 53 = 2 * twoTo 52 := by decide
    omega

/-- Only the least rank has the magnitude zero. -/
theorem magnitude_eq_zero_iff : magnitude rank = 0 ↔ rank = 0 := by
  have hpower : (2 : ℚ) ^ exponent rank ≠ 0 := zpow_ne_zero _ two_ne_zero
  rw [magnitude, mul_eq_zero, or_iff_left hpower, Nat.cast_eq_zero, significand_eq_zero_iff]

/-- **Every binary number is a decimal:** a half is five tenths. -/
theorem decimalQuotient_eq (rank : Nat) :
    ((decimalQuotient rank).1 : ℚ) * 10 ^ (decimalQuotient rank).2 = magnitude rank := by
  unfold decimalQuotient magnitude
  cases exponent rank with
  | ofNat n =>
    show ((significand rank * twoTo n : Nat) : ℚ) * 10 ^ (0 : Int) = _ * 2 ^ (n : Int)
    rw [twoTo_eq, zpow_zero, mul_one, zpow_natCast]
    push_cast
    rfl
  | negSucc n =>
    show ((significand rank * fiveTo (n + 1) : Nat) : ℚ) * 10 ^ Int.negSucc n = _
    have hten : (10 : ℚ) ^ (n + 1) = 2 ^ (n + 1) * 5 ^ (n + 1) := by rw [← mul_pow]; norm_num
    have htwo : (2 : ℚ) ^ (n + 1) ≠ 0 := pow_ne_zero _ two_ne_zero
    rw [fiveTo_eq, zpow_negSucc, zpow_negSucc, hten]
    push_cast
    field_simp

end Binary64

namespace Decimal

/-- Removing trailing zeros changes no value. -/
theorem withoutZeros_value (c : Nat) (e : Int) :
    ((withoutZeros c e).1 : ℚ) * 10 ^ (withoutZeros c e).2 = c * 10 ^ e := by
  induction c, e using withoutZeros.induct with
  | case1 c e h _ ih =>
    have hc : (c : ℚ) = (c / 10 : Nat) * 10 := by
      have hdiv : c = c / 10 * 10 := (Nat.div_mul_cancel (Nat.dvd_of_mod_eq_zero h.2)).symm
      exact_mod_cast hdiv
    rw [withoutZeros, dif_pos h, ih, zpow_add_one₀ (by norm_num), hc]
    ring
  | case2 c e h => rw [withoutZeros, dif_neg h]

/-- What is left does not end with a zero. -/
theorem withoutZeros_mod (hc : c ≠ 0) (e : Int) : (withoutZeros c e).1 % 10 ≠ 0 := by
  induction c, e using withoutZeros.induct with
  | case1 c e h _ ih =>
    rw [withoutZeros, dif_pos h]
    exact ih (by omega)
  | case2 c e h =>
    rw [withoutZeros, dif_neg h]
    exact fun hmod => h ⟨hc, hmod⟩

end Decimal

namespace Number

variable {n m : Number} {b : Bool} {f : NumberFault}

/-- The value of a finite number. -/
def value? : Number → Option ℚ
  | int n => some n
  | float (.finite negative rank) => some (signed negative (Binary64.magnitude rank))
  | float (.infinite _) => none
  | float .nan => none
  | decimal (.finite negative c e) => some (signed negative (c * 10 ^ e))
  | decimal (.infinite _) => none
  | decimal (.nan ..) => none

/-- **The zeros are the numbers with the value zero.** -/
theorem isZero_eq_true_iff : n.isZero = true ↔ n.value? = some 0 := by
  rcases n with n | (_ | _ | ⟨negative, rank⟩) | (⟨negative, c, e⟩ | _ | _)
  case int => simp [isZero, value?]
  case float.finite =>
    show (rank.val == 0) = true ↔ some (signed negative (Binary64.magnitude rank)) = some 0
    rw [beq_iff_eq, Option.some_inj, signed_eq_zero_iff, Binary64.magnitude_eq_zero_iff]
  case decimal.finite =>
    have hpower : (10 : ℚ) ^ e ≠ 0 := zpow_ne_zero _ (by norm_num)
    show (c == 0) = true ↔ some (signed negative (c * 10 ^ e)) = some 0
    rw [beq_iff_eq, Option.some_inj, signed_eq_zero_iff, mul_eq_zero, or_iff_left hpower,
      Nat.cast_eq_zero]
  all_goals exact iff_of_false Bool.false_ne_true nofun

/-- An integer is finite if it is within the range of binary numbers, and beyond that there is no
answer. -/
theorem isFinite_int (i : Int) :
    (int i).isFinite =
      if i.natAbs < Binary64.integerBound then .ok true else .error .beyondBinary := rfl

/-- The test for finite numbers has no answer for the integers that round to no binary number. -/
theorem isFinite_eq_error_iff :
    n.isFinite = .error f ↔
      f = .beyondBinary ∧ ∃ i, n = .int i ∧ Binary64.integerBound ≤ i.natAbs := by
  rcases n with i | x | d
  case int =>
    rw [isFinite_int]
    by_cases hi : i.natAbs < Binary64.integerBound
    · rw [if_pos hi]
      refine iff_of_false nofun fun ⟨_, j, hj, hle⟩ => ?_
      obtain rfl := Number.int.inj hj
      exact Nat.not_lt.2 hle hi
    · rw [if_neg hi]
      exact ⟨fun h => ⟨(Except.error.inj h).symm, i, rfl, Nat.not_lt.1 hi⟩, fun h => h.1 ▸ rfl⟩
  case float => exact iff_of_false nofun nofun
  case decimal => exact iff_of_false nofun nofun

/-- **The finite numbers are those that have a value,** wherever the test has an answer. -/
theorem isFinite_eq_ok (h : n.isFinite = .ok b) : b = n.value?.isSome := by
  rcases n with i | (_ | _ | _) | (_ | _ | _)
  case int =>
    rw [isFinite_int] at h
    by_cases hi : i.natAbs < Binary64.integerBound
    · rw [if_pos hi] at h
      exact (Except.ok.inj h).symm
    · rw [if_neg hi] at h
      cases h
  all_goals exact (Except.ok.inj h).symm

/-- A number in lowest terms: zero has the power zero, and no other coefficient ends with a zero. -/
def IsLowest (v : Int × Int) : Prop := if v.1 = 0 then v.2 = 0 else ¬ (10 : Int) ∣ v.1

/-- Lowest terms have the value that they are made from. -/
theorem lowestTerms_value (negative : Bool) (c : Nat) (p : Int) :
    ((lowestTerms negative c p).1 : ℚ) * 10 ^ (lowestTerms negative c p).2 =
      signed negative (c * 10 ^ p) := by
  have hvalue := Decimal.withoutZeros_value c p
  unfold lowestTerms signed
  by_cases hc : c = 0
  · simp [hc]
  · rw [if_neg hc, ← hvalue]
    cases negative <;> simp

/-- What is brought to lowest terms cannot be brought lower. -/
theorem isLowest_lowestTerms (negative : Bool) (c : Nat) (p : Int) :
    IsLowest (lowestTerms negative c p) := by
  unfold lowestTerms IsLowest
  by_cases hc : c = 0
  · simp [hc]
  · have hmod := Decimal.withoutZeros_mod hc p
    rw [if_neg hc]
    generalize Decimal.withoutZeros c p = w at hmod
    obtain ⟨c', p'⟩ := w
    cases negative <;> simp only [Bool.false_eq_true, if_false, if_true] <;> split <;> omega

/-- A larger power of ten would leave a zero at the end. -/
theorem not_lt_of_isLowest {v w : Int × Int} (hv : IsLowest v) (hw : w.1 ≠ 0)
    (h : (v.1 : ℚ) * 10 ^ v.2 = w.1 * 10 ^ w.2) : ¬ v.2 < w.2 := by
  intro hlt
  obtain ⟨k, hk⟩ := Int.exists_add_of_le (Int.add_one_le_of_lt hlt)
  have hten : (10 : ℚ) ^ v.2 ≠ 0 := zpow_ne_zero _ (by norm_num)
  have hpower : (10 : ℚ) ^ w.2 = 10 ^ v.2 * (10 * 10 ^ k) := by
    rw [hk, zpow_add₀ (by norm_num), zpow_add_one₀ (by norm_num), zpow_natCast]
    ring
  have hcoefficient : v.1 = w.1 * (10 * 10 ^ k) := by
    have hq : (v.1 : ℚ) = w.1 * (10 * 10 ^ k) := mul_right_cancel₀ hten (by rw [h, hpower]; ring)
    exact_mod_cast hq
  have hne : v.1 ≠ 0 := by
    rw [hcoefficient]
    positivity
  rw [IsLowest, if_neg hne, hcoefficient] at hv
  exact hv ⟨w.1 * 10 ^ k, by ring⟩

/-- **Lowest terms are unique.** -/
theorem eq_of_isLowest {v w : Int × Int} (hv : IsLowest v) (hw : IsLowest w)
    (h : (v.1 : ℚ) * 10 ^ v.2 = w.1 * 10 ^ w.2) : v = w := by
  have hten (k : Int) : (10 : ℚ) ^ k ≠ 0 := zpow_ne_zero _ (by norm_num)
  have hzero : v.1 = 0 ↔ w.1 = 0 := by
    have hv0 : (v.1 : ℚ) * 10 ^ v.2 = 0 ↔ v.1 = 0 := by simp [hten]
    have hw0 : (w.1 : ℚ) * 10 ^ w.2 = 0 ↔ w.1 = 0 := by simp [hten]
    rw [← hv0, h, hw0]
  by_cases hv0 : v.1 = 0
  · have hw0 := hzero.1 hv0
    rw [IsLowest, if_pos hv0] at hv
    rw [IsLowest, if_pos hw0] at hw
    exact Prod.ext (hv0.trans hw0.symm) (hv.trans hw.symm)
  · have hw0 : w.1 ≠ 0 := mt hzero.2 hv0
    have hle := not_lt_of_isLowest hv hw0 h
    have hge := not_lt_of_isLowest hw hv0 h.symm
    have hpower : v.2 = w.2 := by omega
    rw [hpower] at h
    have hcoefficient : (v.1 : ℚ) = w.1 := mul_right_cancel₀ (hten _) h
    exact Prod.ext (by exact_mod_cast hcoefficient) hpower

/-- The exact value that is kept of a number is its value in lowest terms. -/
theorem exactValue?_eq_some (h : n.value? = some q) :
    ∃ v, n.exactValue? = some v ∧ IsLowest v ∧ (v.1 : ℚ) * 10 ^ v.2 = q := by
  rcases n with i | (_ | _ | ⟨negative, rank⟩) | (⟨negative, c, e⟩ | _ | _)
  case int =>
    refine ⟨_, rfl, isLowest_lowestTerms .., ?_⟩
    have hi : signed (i < 0) (i.natAbs : ℚ) = i := by
      unfold signed
      split
      · rename_i hneg
        have hneg : i < 0 := by simpa using hneg
        rw [Nat.cast_natAbs, abs_of_neg hneg]
        simp
      · rename_i hneg
        have hneg : 0 ≤ i := by simpa using hneg
        rw [Nat.cast_natAbs, abs_of_nonneg hneg]
    rw [lowestTerms_value, zpow_zero, mul_one, hi]
    exact Option.some.inj h
  case float.finite =>
    refine ⟨_, rfl, isLowest_lowestTerms .., (lowestTerms_value ..).trans ?_⟩
    exact (congrArg (signed negative) (Binary64.decimalQuotient_eq rank)).trans (Option.some.inj h)
  case decimal.finite =>
    refine ⟨_, rfl, isLowest_lowestTerms .., ?_⟩
    rw [lowestTerms_value]
    exact Option.some.inj h
  all_goals cases h

/-- **Finite numbers are the same exactly if they have the same value,** whatever their kinds. -/
theorem same_eq_true_iff (hn : n.value? = some q) (hm : m.value? = some r) :
    n.same m = true ↔ q = r := by
  obtain ⟨v, hv, hlv, rfl⟩ := exactValue?_eq_some hn
  obtain ⟨w, hw, hlw, rfl⟩ := exactValue?_eq_some hm
  rw [same, hv, hw]
  show (v == w) = true ↔ _
  rw [beq_iff_eq]
  exact ⟨fun h => h ▸ rfl, eq_of_isLowest hlv hlw⟩

end Number

end Phrasebook
