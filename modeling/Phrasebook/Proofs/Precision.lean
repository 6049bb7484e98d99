/-
# Rounding decimals to the precision

A decimal within the range of results is rounded to 28 digits. Its coefficient is lengthened or
shortened to so many digits, and if digits are lost the nearest coefficient is taken, of two the
even one (`Decimal.significand`). A coefficient with fewer digits loses nothing, and what comes out
has the same value as if it were lengthened. There is no result only if the coefficient is rounded
up to one more digit while the power of ten of the first digit is the largest one already
(`Decimal.rounded_cases`).

Whether a coefficient is rounded to a given even number is told by the magnitude: it has to be no
more than half a unit of the last digit away (`Decimal.significand_eq_iff`).
-/

import Phrasebook.Number.Decimal.Context
import Phrasebook.Proofs.Text.Numeral
import Mathlib

namespace Phrasebook

/-- **An even number is the nearest one within half a unit on both sides,** the ends included. -/
theorem nearestEven_eq_iff_of_even {num den k : Nat} (hden : 0 < den) (hk : k % 2 = 0) :
    nearestEven num den = k ↔ 2 * (den * k) ≤ 2 * num + den ∧ 2 * num ≤ 2 * (den * k) + den := by
  constructor
  · rintro rfl
    exact nearestEven_bounds num hden
  · rintro ⟨hlow, hhigh⟩
    have hq := Nat.div_add_mod num den
    have hr := Nat.mod_lt num hden
    have hsucc (n : Nat) : den * (n + 1) = den * n + den := Nat.mul_succ den n
    unfold nearestEven
    dsimp only
    -- the number is the quotient or the next one, as it is not far from both
    rcases Nat.lt_trichotomy k (num / den) with hlt | rfl | hgt
    · have hmul := Nat.mul_le_mul_left den (Nat.succ_le_of_lt hlt)
      rw [Nat.succ_eq_add_one, hsucc] at hmul
      omega
    · split
      · rfl
      · rw [if_neg (by omega), hk, Nat.add_zero]
    · obtain rfl : k = num / den + 1 := by
        refine Nat.le_antisymm (Nat.not_lt.1 fun hlt => ?_) hgt
        have hmul := Nat.mul_le_mul_left den (Nat.succ_le_of_lt hlt)
        rw [Nat.succ_eq_add_one, hsucc, hsucc] at hmul
        omega
      rw [hsucc] at hlow
      split
      · omega
      · split
        · rfl
        · omega

/-- Between two whole quotients the nearest number stays. -/
theorem nearestEven_mem_of_mem {num den a b : Nat} (hden : 0 < den) (hlow : a * den ≤ num)
    (hhigh : num ≤ b * den) : a ≤ nearestEven num den ∧ nearestEven num den ≤ b := by
  obtain ⟨hbelow, habove⟩ := nearestEven_bounds num hden
  rw [Nat.mul_comm] at hlow hhigh
  have hsucc (n : Nat) : den * (n + 1) = den * n + den := Nat.mul_succ den n
  constructor
  · refine Nat.not_lt.1 fun hlt => ?_
    have hmul := Nat.mul_le_mul_left den (Nat.succ_le_of_lt hlt)
    rw [Nat.succ_eq_add_one, hsucc] at hmul
    omega
  · refine Nat.not_lt.1 fun hlt => ?_
    have hmul := Nat.mul_le_mul_left den (Nat.succ_le_of_lt hlt)
    rw [Nat.succ_eq_add_one, hsucc] at hmul
    omega

/-- A power of ten as a rational number is that power. -/
theorem cast_tenTo (n : Nat) : (tenTo n : ℚ) = 10 ^ (n : Int) := by
  rw [zpow_natCast]
  exact Nat.cast_pow 10 n

namespace Decimal

variable {negative : Bool} {c : Nat} {e : Int}

/-- A number has one digit at least. -/
theorem digitCount_pos (c : Nat) : 0 < Text.digitCount c :=
  List.length_pos_iff.2 (Text.numeral_ne_nil c)

/-- A number has at most so many digits if it is below that power of ten. -/
theorem digitCount_le_iff {k : Nat} (hk : 0 < k) : Text.digitCount c ≤ k ↔ c < tenTo k :=
  Text.length_numeral_le_iff hk

/-- A number is below the power of ten with as many zeros as it has digits. -/
theorem lt_tenTo_digitCount (c : Nat) : c < tenTo (Text.digitCount c) :=
  (digitCount_le_iff (digitCount_pos c)).1 (Nat.le_refl _)

/-- A number that is not zero is at least the power of ten that has as many digits. -/
theorem tenTo_le_of_ne_zero (hc : c ≠ 0) : tenTo (Text.digitCount c - 1) ≤ c := by
  rcases Nat.eq_or_lt_of_le (digitCount_pos c) with hone | hlt
  · rw [← hone]
    exact Nat.pos_of_ne_zero hc
  · refine Nat.not_lt.1 fun hsmall => ?_
    have := (digitCount_le_iff (Nat.sub_pos_of_lt hlt)).2 hsmall
    omega

/-- A coefficient with as many digits as the precision: zeros are added to a shorter one, and a
longer one is rounded. -/
def significand (c : Nat) : Nat :=
  nearestEven (c * tenTo (precision - Text.digitCount c)) (tenTo (Text.digitCount c - precision))

/-- The exponent that goes with it. -/
def quantum (c : Nat) (e : Int) : Int := adjusted c e + 1 - precision

/-- A nonzero coefficient is brought to its number of digits. -/
theorem scaled_bounds (hc : c ≠ 0) :
    tenTo 27 * tenTo (Text.digitCount c - precision) ≤ c * tenTo (precision - Text.digitCount c) ∧
      c * tenTo (precision - Text.digitCount c) <
        tenTo 28 * tenTo (Text.digitCount c - precision) := by
  have hlow := tenTo_le_of_ne_zero hc
  have hhigh := lt_tenTo_digitCount c
  have hpos := digitCount_pos c
  have hp : precision = 28 := rfl
  generalize Text.digitCount c = d at *
  have hfront : tenTo 27 * tenTo (d - precision) = tenTo (d - 1) * tenTo (precision - d) := by
    rw [← tenTo_add, ← tenTo_add]
    congr 1
    omega
  have hback : tenTo 28 * tenTo (d - precision) = tenTo d * tenTo (precision - d) := by
    rw [← tenTo_add, ← tenTo_add]
    congr 1
    omega
  rw [hfront, hback]
  exact ⟨Nat.mul_le_mul_right _ hlow, Nat.mul_lt_mul_of_pos_right hhigh (tenTo_pos _)⟩

/-- A significand has as many digits as the precision, or is the next power of ten. -/
theorem significand_bounds (hc : c ≠ 0) : tenTo 27 ≤ significand c ∧ significand c ≤ tenTo 28 := by
  obtain ⟨hlow, hhigh⟩ := scaled_bounds hc
  exact nearestEven_mem_of_mem (tenTo_pos _) hlow (Nat.le_of_lt hhigh)

/-- Bringing a coefficient to the number of digits changes no value. -/
theorem scaled_value (c : Nat) (e : Int) :
    ((c * tenTo (precision - Text.digitCount c) : Nat) : ℚ) * 10 ^ quantum c e =
      tenTo (Text.digitCount c - precision) * (c * 10 ^ e) := by
  have hpower : ((precision - Text.digitCount c : Nat) : Int) + quantum c e =
      ((Text.digitCount c - precision : Nat) : Int) + e := by
    unfold quantum adjusted
    omega
  rw [Nat.cast_mul, cast_tenTo, cast_tenTo, mul_assoc, ← zpow_add₀ (by norm_num), hpower,
    zpow_add₀ (by norm_num)]
  ring

/-- **A coefficient is rounded to an even number** exactly if the magnitude is within half a unit of
its last digit, the ends included. -/
theorem significand_eq_iff {k : Nat} (hk : k % 2 = 0) :
    significand c = k ↔
      k * 10 ^ quantum c e - 10 ^ quantum c e / 2 ≤ (c * 10 ^ e : ℚ) ∧
        (c * 10 ^ e : ℚ) ≤ k * 10 ^ quantum c e + 10 ^ quantum c e / 2 := by
  have hunit : (0 : ℚ) < 10 ^ quantum c e := zpow_pos (by norm_num) _
  have hvalue := scaled_value c e
  rw [significand, nearestEven_eq_iff_of_even (tenTo_pos _) hk]
  have hpos := tenTo_pos (Text.digitCount c - precision)
  generalize c * tenTo (precision - Text.digitCount c) = num at *
  generalize tenTo (Text.digitCount c - precision) = den at *
  generalize (10 : ℚ) ^ quantum c e = unit at *
  generalize (c * 10 ^ e : ℚ) = x at *
  have hden : (0 : ℚ) < den := by exact_mod_cast hpos
  have hscale (r : ℚ) : (r * unit ≤ x ↔ den * r ≤ num) ∧ (x ≤ r * unit ↔ num ≤ den * r) := by
    rw [← mul_le_mul_iff_right₀ hden, ← mul_le_mul_iff_right₀ hden (b := x), ← hvalue, ← mul_assoc,
      mul_le_mul_iff_left₀ hunit, mul_le_mul_iff_left₀ hunit]
    exact ⟨Iff.rfl, Iff.rfl⟩
  have hlow : 2 * (den * k) ≤ 2 * num + den ↔ (den * (k - 1 / 2) : ℚ) ≤ num := by
    rw [← Nat.cast_le (α := ℚ)]
    push_cast
    constructor <;> intro h <;> linarith
  have hhigh : 2 * num ≤ 2 * (den * k) + den ↔ (num : ℚ) ≤ den * (k + 1 / 2) := by
    rw [← Nat.cast_le (α := ℚ)]
    push_cast
    constructor <;> intro h <;> linarith
  have hbelow : k * unit - unit / 2 = (k - 1 / 2) * unit := by ring
  have habove : k * unit + unit / 2 = (k + 1 / 2) * unit := by ring
  rw [hlow, hhigh, hbelow, habove, (hscale _).1, (hscale _).2]

/-- The least and the largest significands make up the powers of ten of the first digit and of the
one in front of it. -/
theorem tenTo_mul_quantum (c : Nat) (e : Int) :
    (tenTo 27 * 10 ^ quantum c e : ℚ) = 10 ^ adjusted c e ∧
      (tenTo 28 * 10 ^ quantum c e : ℚ) = 10 ^ (adjusted c e + 1) := by
  have hquantum : adjusted c e = 27 + quantum c e := by
    unfold quantum precision
    omega
  rw [cast_tenTo, cast_tenTo, ← zpow_add₀ (by norm_num), ← zpow_add₀ (by norm_num), hquantum]
  refine ⟨rfl, ?_⟩
  congr 1
  push_cast
  ring

/-- The magnitude lies between the powers of ten of its first digit. -/
theorem magnitude_bounds (hc : c ≠ 0) (e : Int) :
    (10 : ℚ) ^ adjusted c e ≤ c * 10 ^ e ∧ (c * 10 ^ e : ℚ) < 10 ^ (adjusted c e + 1) := by
  have hunit : (0 : ℚ) < 10 ^ e := zpow_pos (by norm_num) _
  have hpos := digitCount_pos c
  have hfront : adjusted c e = ((Text.digitCount c - 1 : Nat) : Int) + e := by
    unfold adjusted
    omega
  have hback : adjusted c e + 1 = (Text.digitCount c : Int) + e := by
    unfold adjusted
    omega
  rw [hback, hfront, zpow_add₀ (by norm_num), zpow_add₀ (by norm_num), ← cast_tenTo, ← cast_tenTo]
  constructor
  · exact mul_le_mul_of_nonneg_right (by exact_mod_cast tenTo_le_of_ne_zero hc) hunit.le
  · exact mul_lt_mul_of_pos_right (by exact_mod_cast lt_tenTo_digitCount c) hunit

/-- **A coefficient that is not too long loses nothing.** -/
theorem significand_of_digitCount_le (hc : c ≠ 0) (h : Text.digitCount c ≤ precision) (e : Int) :
    significand c < tenTo 28 ∧ (significand c * 10 ^ quantum c e : ℚ) = c * 10 ^ e := by
  have hnone : Text.digitCount c - precision = 0 := Nat.sub_eq_zero_of_le h
  have hsame : significand c = c * tenTo (precision - Text.digitCount c) := by
    have hone := nearestEven_mul (c * tenTo (precision - Text.digitCount c)) Nat.zero_lt_one
    rw [Nat.mul_one] at hone
    rw [significand, hnone, tenTo_zero, hone]
  obtain ⟨-, hlt⟩ := scaled_bounds hc
  have hvalue := scaled_value c e
  rw [hnone, tenTo_zero, Nat.mul_one, ← hsame] at hlt
  rw [hnone, tenTo_zero, Nat.cast_one, one_mul, ← hsame] at hvalue
  exact ⟨hlt, hvalue⟩

/-- Whether rounding a coefficient leaves the range of results. -/
def Overflows (c : Nat) (e : Int) : Prop := significand c = tenTo 28 ∧ adjusted c e = maxPower

/-- A number between two powers of ten has as many digits as the precision. -/
theorem digitCount_eq_precision {m : Nat} (hlow : tenTo 27 ≤ m) (hhigh : m < tenTo 28) :
    Text.digitCount m = precision := by
  have hle := (digitCount_le_iff (c := m) (k := 28) (by decide)).2 hhigh
  have hgt := mt (digitCount_le_iff (c := m) (k := 27) (by decide)).1 (Nat.not_lt.2 hlow)
  unfold precision
  omega

/-- What was shortened to the precision stays as it is, unless it was rounded up to one more
digit. -/
theorem checked_of_lt {m : Nat} {w : Int} (hlow : tenTo 27 ≤ m) (hlt : m < tenTo 28)
    (hw : w + 27 ≤ maxPower) : checked negative m w = .ok (.finite negative m w) := by
  have hdigits := digitCount_eq_precision hlow hlt
  have hpower : ¬ maxPower < adjusted m w := by
    rw [adjusted, hdigits, precision]
    omega
  rw [checked, hdigits, if_neg (Nat.lt_irrefl _)]
  dsimp only
  rw [if_neg fun h => hpower h.1]

/-- One more digit is a larger power of ten, if there is one. -/
theorem checked_tenTo {w : Int} (hw : w + 27 ≤ maxPower) :
    checked negative (tenTo 28) w =
      if w + 27 = maxPower then .error .overflow else .ok (.finite negative (tenTo 27) (w + 1)) := by
  have hlong : precision < Text.digitCount (tenTo 28) :=
    Nat.not_le.1 (mt (digitCount_le_iff (by decide)).1 (Nat.lt_irrefl _))
  have hcut : tenTo 28 / 10 = tenTo 27 := by decide
  have hpower : adjusted (tenTo 27) (w + 1) = w + 28 := by
    rw [adjusted, digitCount_eq_precision (Nat.le_refl _) (by decide), precision]
    omega
  rw [checked, if_pos hlong]
  dsimp only
  rw [hcut, hpower]
  by_cases hmax : w + 27 = maxPower
  · rw [if_pos ⟨by omega, by decide⟩, if_pos hmax]
  · rw [if_neg fun h => hmax (by omega), if_neg hmax]

/-- **A decimal within the range of results** is rounded to its significand, or has no result. -/
theorem rounded_cases (hc : c ≠ 0) (hlow : -maxPower ≤ adjusted c e)
    (hhigh : adjusted c e ≤ maxPower) :
    (Overflows c e ∧ rounded negative c e = .error .overflow) ∨
      ¬ Overflows c e ∧ ∃ c' e', rounded negative c e = .ok (.finite negative c' e') ∧
        (c' * 10 ^ e' : ℚ) = significand c * 10 ^ quantum c e := by
  have hleast : max minExponent (adjusted c e + 1 - precision) = quantum c e := by
    refine max_eq_right ?_
    unfold minExponent precision
    unfold maxPower at hlow
    omega
  have hquantum : quantum c e + 27 = adjusted c e := by
    unfold quantum precision
    omega
  have hplaces : quantum c e - e = (Text.digitCount c : Int) - precision := by
    unfold quantum adjusted
    omega
  rw [rounded, if_neg hc, if_neg (by omega)]
  dsimp only
  rw [hleast]
  by_cases hlong : e < quantum c e
  · have hmore : precision < Text.digitCount c := by omega
    have hcoarse : coarsen c (quantum c e - e).toNat = significand c := by
      rw [coarsen, significand, hplaces, if_neg (by omega), Nat.sub_eq_zero_of_le (by omega),
        tenTo_zero, Nat.mul_one]
      congr 2
      omega
    obtain ⟨hge, hle⟩ := significand_bounds hc
    rw [if_pos hlong, hcoarse]
    rcases Nat.eq_or_lt_of_le hle with hfull | hlt
    · rw [hfull, checked_tenTo (by omega), hquantum]
      by_cases hmax : adjusted c e = maxPower
      · exact .inl ⟨⟨hfull, hmax⟩, if_pos hmax⟩
      · refine .inr ⟨fun h => hmax h.2, _, _, if_neg hmax, ?_⟩
        rw [cast_tenTo, cast_tenTo, ← zpow_add₀ (by norm_num), ← zpow_add₀ (by norm_num)]
        congr 1
        push_cast
        ring
    · exact .inr ⟨fun h => Nat.ne_of_lt hlt h.1, _, _, checked_of_lt hge hlt (by omega), rfl⟩
  · obtain ⟨hlt, hvalue⟩ := significand_of_digitCount_le hc (by omega) e
    exact .inr ⟨fun h => Nat.ne_of_lt hlt h.1, _, _, if_neg hlong, hvalue.symm⟩

end Decimal

end Phrasebook
