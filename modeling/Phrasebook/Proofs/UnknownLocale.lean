/-
# Plurals where the locale is not known

Where the locale library does not find a code, `select_plural_category` means the singular for the
numbers whose absolute value is one. For integers and binary numbers this is so. The absolute value
of a decimal is a result of decimal arithmetic, though, and rounded to 28 digits before it is
compared, which shows at two places. A decimal that is rounded to one counts as one
(`Decimal.significand_eq_one_iff`), and a decimal that is rounded out of the range of results has no
category at all (`Decimal.overflows_iff`). Both need more than 28 digits.

So without a locale the category is told by the value, except for these decimals
(`Number.pluralCategory_of_unknown`). Which codes the library finds is left open.
-/

import Phrasebook.Plural.Select
import Phrasebook.Proofs.NumberValue
import Phrasebook.Proofs.Outcome
import Phrasebook.Proofs.Precision

namespace Phrasebook

variable {negative : Bool} {c : Nat} {e : Int} {q x y : ℚ}

/-- The size of a magnitude with a sign is the magnitude. -/
theorem abs_signed (hx : 0 ≤ x) : |signed negative x| = x := by
  unfold signed
  split
  · rw [abs_neg, abs_of_nonneg hx]
  · exact abs_of_nonneg hx

/-- Whether a magnitude is rounded to one: from below half a unit of the 28th digit behind the point
is enough, from above half a unit of the 27th. -/
def RoundsToOne (x : ℚ) : Prop := 1 - 5 / 10 ^ 29 ≤ x ∧ x ≤ 1 + 5 / 10 ^ 28

instance : DecidablePred RoundsToOne := fun x =>
  inferInstanceAs (Decidable (1 - 5 / 10 ^ 29 ≤ x ∧ x ≤ 1 + 5 / 10 ^ 28))

/-- Whether a magnitude is rounded up to a power of ten that is too large. -/
def RoundsOut (x : ℚ) : Prop := (10 - 5 / 10 ^ 28) * 10 ^ Decimal.maxPower ≤ x

/-- One is rounded to one. -/
theorem roundsToOne_one : RoundsToOne 1 := by
  unfold RoundsToOne
  norm_num

/-- What is rounded to one is not rounded out of the range. -/
theorem not_roundsOut_of_roundsToOne (h : RoundsToOne x) : ¬ RoundsOut x := by
  have hpower : (1 : ℚ) ≤ 10 ^ Decimal.maxPower := one_le_zpow₀ (by norm_num) (by decide)
  rw [RoundsOut, not_le]
  linarith [h.2]

/-- Zero is not rounded to one. -/
theorem not_roundsToOne_zero : ¬ RoundsToOne 0 := by
  unfold RoundsToOne
  norm_num

/-- Zero is not rounded out of the range. -/
theorem not_roundsOut_zero : ¬ RoundsOut 0 := by
  have hpos : (0 : ℚ) < 10 ^ Decimal.maxPower := zpow_pos (by norm_num) _
  rw [RoundsOut, not_le]
  linarith

namespace Decimal

/-- **A decimal overflows exactly if its magnitude is rounded out of the range.** -/
theorem overflows_iff (hc : c ≠ 0) (hhigh : adjusted c e ≤ maxPower) :
    Overflows c e ↔ RoundsOut (c * 10 ^ e) := by
  have hunit : (0 : ℚ) < 10 ^ quantum c e := zpow_pos (by norm_num) _
  have hfull := significand_eq_iff (c := c) (e := e) (k := tenTo 28) (by decide)
  obtain ⟨hfirst, hnext⟩ := tenTo_mul_quantum c e
  obtain ⟨-, hbelow⟩ := magnitude_bounds hc e
  have hten : ((tenTo 27 : Nat) : ℚ) = 10 ^ 27 := by norm_cast
  rw [hten] at hfirst
  rw [hnext] at hfull
  rw [zpow_add_one₀ (by norm_num), ← hfirst] at hfull hbelow
  unfold Overflows RoundsOut
  constructor
  · rintro ⟨hs, hmax⟩
    obtain ⟨hlow, -⟩ := hfull.1 hs
    rw [← hmax, ← hfirst]
    linarith
  · intro hout
    have hmax : adjusted c e = maxPower := by
      refine le_antisymm hhigh (Int.not_lt.1 fun hlt => ?_)
      have hpower : (10 : ℚ) ^ (adjusted c e + 1) ≤ 10 ^ maxPower :=
        zpow_le_zpow_right₀ (by norm_num) hlt
      rw [zpow_add_one₀ (by norm_num), ← hfirst] at hpower
      linarith
    rw [← hmax, ← hfirst] at hout
    exact ⟨hfull.2 ⟨by linarith, by linarith⟩, hmax⟩

/-- Away from one on either side there is one digit at least. -/
theorem far_from_one {a : Int} (hlow : (10 : ℚ) ^ a ≤ y) (hhigh : y ≤ 10 ^ (a + 1)) :
    (1 ≤ a → 10 ≤ y) ∧ (a ≤ -2 → y ≤ 1 / 10) := by
  constructor
  · intro ha
    exact le_trans (by simpa using zpow_le_zpow_right₀ (by norm_num : (1 : ℚ) ≤ 10) ha) hlow
  · intro ha
    have hpower : (10 : ℚ) ^ (a + 1) ≤ 10 ^ (-1 : Int) :=
      zpow_le_zpow_right₀ (by norm_num) (by omega)
    exact hhigh.trans (hpower.trans (by norm_num))

/-- A significand that makes up one is rounded to from half a unit around. -/
theorem significand_eq_one_iff_of_unit {k : Nat} (hk : k % 2 = 0)
    (hunit : (k * 10 ^ quantum c e : ℚ) = 1) :
    (significand c * 10 ^ quantum c e : ℚ) = 1 ↔
      1 - 10 ^ quantum c e / 2 ≤ (c * 10 ^ e : ℚ) ∧
        (c * 10 ^ e : ℚ) ≤ 1 + 10 ^ quantum c e / 2 := by
  have hpos : (10 : ℚ) ^ quantum c e ≠ 0 := zpow_ne_zero _ (by norm_num)
  have hs := significand_eq_iff (c := c) (e := e) hk
  rw [hunit] at hs
  rw [← hs, ← hunit, mul_left_inj' hpos, Nat.cast_inj]

/-- **A decimal is rounded to one exactly if its magnitude is near enough.** -/
theorem significand_eq_one_iff (hc : c ≠ 0) (e : Int) :
    (significand c * 10 ^ quantum c e : ℚ) = 1 ↔ RoundsToOne (c * 10 ^ e) := by
  obtain ⟨hfirst, hnext⟩ := tenTo_mul_quantum c e
  obtain ⟨hxlow, hxhigh⟩ := magnitude_bounds hc e
  have hbounds : (10 : ℚ) ^ adjusted c e ≤ significand c * 10 ^ quantum c e ∧
      (significand c * 10 ^ quantum c e : ℚ) ≤ 10 ^ (adjusted c e + 1) := by
    have hunit : (0 : ℚ) ≤ 10 ^ quantum c e := zpow_nonneg (by norm_num) _
    obtain ⟨hlow, hhigh⟩ := significand_bounds hc
    rw [← hfirst, ← hnext]
    exact ⟨mul_le_mul_of_nonneg_right (by exact_mod_cast hlow) hunit,
      mul_le_mul_of_nonneg_right (by exact_mod_cast hhigh) hunit⟩
  have hx := far_from_one hxlow hxhigh.le
  have hy := far_from_one hbounds.1 hbounds.2
  unfold RoundsToOne
  -- the first digit is at the units or right behind the point, or neither side is near to one
  rcases (by omega : 1 ≤ adjusted c e ∨ adjusted c e ≤ -2 ∨ adjusted c e = 0 ∨ adjusted c e = -1)
    with hlarge | hsmall | hone | htenth
  · refine iff_of_false (fun h => ?_) fun h => ?_
    · linarith [hy.1 hlarge]
    · linarith [hx.1 hlarge, h.2]
  · refine iff_of_false (fun h => ?_) fun h => ?_
    · linarith [hy.2 hsmall]
    · linarith [hx.2 hsmall, h.1]
  · rw [hone, zpow_zero] at hfirst hxlow
    rw [significand_eq_one_iff_of_unit (by decide) hfirst]
    have hunit : (10 : ℚ) ^ quantum c e = 1 / 10 ^ 27 := by
      rw [eq_one_div_of_mul_eq_one_right hfirst]
      norm_cast
    rw [hunit]
    constructor <;> intro h <;> constructor <;> linarith [h.1, h.2]
  · rw [htenth, neg_add_cancel, zpow_zero] at hnext hxhigh
    rw [significand_eq_one_iff_of_unit (by decide) hnext]
    have hunit : (10 : ℚ) ^ quantum c e = 1 / 10 ^ 28 := by
      rw [eq_one_div_of_mul_eq_one_right hnext]
      norm_cast
    rw [hunit]
    constructor <;> intro h <;> constructor <;> linarith [h.1, h.2]

/-- Nothing is rounded that has no more digits than the precision. -/
theorem exact_of_digitCount_le (h : Text.digitCount c ≤ precision)
    (hhigh : adjusted c e ≤ maxPower) :
    ¬ RoundsOut (c * 10 ^ e) ∧ (RoundsToOne (c * 10 ^ e) → (c * 10 ^ e : ℚ) = 1) := by
  by_cases hc : c = 0
  · rw [hc, Nat.cast_zero, zero_mul]
    exact ⟨not_roundsOut_zero, fun hone => absurd hone not_roundsToOne_zero⟩
  · obtain ⟨hlt, hvalue⟩ := significand_of_digitCount_le hc h e
    refine ⟨fun hout => Nat.ne_of_lt hlt ((overflows_iff hc hhigh).2 hout).1, fun hone => ?_⟩
    rw [← hvalue]
    exact (significand_eq_one_iff hc e).2 hone

end Decimal

namespace Number

variable {n : Number} {library : LocaleLibrary} {code : String} {fault : LocaleFault}

/-- Whether the first digit of a decimal is within the range of results. -/
def InRange : Number → Prop
  | decimal (.finite _ c e) =>
    -Decimal.maxPower ≤ Decimal.adjusted c e ∧ Decimal.adjusted c e ≤ Decimal.maxPower
  | _ => True

instance : DecidablePred InRange
  | decimal (.finite _ c e) => inferInstanceAs
    (Decidable (-Decimal.maxPower ≤ Decimal.adjusted c e ∧ Decimal.adjusted c e ≤ Decimal.maxPower))
  | decimal (.infinite _) | decimal (.nan ..) | int _ | float _ => isTrue trivial

/-- The value of the integer one is one. -/
theorem value?_one : (int 1).value? = some 1 := by simp [value?]

/-- **Integers and binary numbers are told by their value.** -/
theorem isUnit_of_ne_decimal (hn : ∀ d, n ≠ decimal d) (hq : n.value? = some q) :
    n.isUnit = .ok (decide (|q| = 1)) := by
  rcases n with i | (_ | _ | ⟨negative, rank⟩) | d
  case int =>
    obtain rfl := Option.some.inj hq
    refine congrArg Except.ok (Bool.eq_iff_iff.2 ?_)
    rw [beq_iff_eq, decide_eq_true_eq, ← Int.cast_abs, Int.abs_eq_natAbs]
    norm_cast
  case float.finite =>
    obtain rfl := Option.some.inj hq
    have hvalue : (float (.finite false rank)).value? = some (Binary64.magnitude rank) := rfl
    have hpos : 0 ≤ Binary64.magnitude rank := by
      unfold Binary64.magnitude
      positivity
    refine congrArg Except.ok (Bool.eq_iff_iff.2 ?_)
    rw [same_eq_true_iff hvalue value?_one, decide_eq_true_eq, abs_signed hpos]
  case decimal => exact absurd rfl (hn d)
  all_goals cases hq

/-- **A decimal is told by what its magnitude is rounded to,** and has no answer beyond the
range. -/
theorem isUnit_decimal (h : InRange (.decimal (.finite negative c e))) :
    (RoundsOut (c * 10 ^ e) → (decimal (.finite negative c e)).isUnit = .error .overflow) ∧
    (¬ RoundsOut (c * 10 ^ e) → (decimal (.finite negative c e)).isUnit =
      .ok (decide (RoundsToOne (c * 10 ^ e)))) := by
  have hsame (c' : Nat) (e' : Int) : (decimal (.finite false c' e')).same (int 1) =
      decide ((c' * 10 ^ e' : ℚ) = 1) :=
    Bool.eq_iff_iff.2 ((same_eq_true_iff rfl value?_one).trans decide_eq_true_iff.symm)
  have habs : (decimal (.finite negative c e)).isUnit =
      (Decimal.rounded false c e).map fun d => (decimal d).same (int 1) := rfl
  rw [habs]
  by_cases hc : c = 0
  · rw [Decimal.rounded, if_pos hc, hc, Nat.cast_zero, zero_mul, map_ok, hsame, Nat.cast_zero,
      zero_mul]
    refine ⟨fun hout => absurd hout not_roundsOut_zero, fun _ => ?_⟩
    rw [decide_eq_false zero_ne_one, decide_eq_false not_roundsToOne_zero]
  · have hout := Decimal.overflows_iff hc h.2
    rcases @Decimal.rounded_cases false c e hc h.1 h.2 with
      ⟨hover, hr⟩ | ⟨hover, c', e', hr, hvalue⟩
    · rw [hr]
      exact ⟨fun _ => rfl, fun h => absurd (hout.1 hover) h⟩
    · rw [hr, map_ok, hsame, hvalue]
      refine ⟨fun h => absurd (hout.2 h) hover, fun _ => ?_⟩
      simp only [Decimal.significand_eq_one_iff hc]

/-- The category is told by whether the absolute value counts as one. -/
theorem pluralCategory_of_isUnit (hcode : library.find code = .error fault) {unit : Bool}
    (h : n.isUnit = .ok unit) :
    n.pluralCategory library code = .ok (if unit then "one" else "other") := by
  rw [pluralCategory, hcode, h]

/-- Where the absolute value has no result there is no category. -/
theorem pluralCategory_of_overflow (hcode : library.find code = .error fault)
    (h : n.isUnit = .error .overflow) :
    n.pluralCategory library code = .error (.number .overflow) := by
  rw [pluralCategory, hcode, h]

/-- Rounding makes a difference for what is rounded to one without being one. -/
theorem category_eq_iff : (if RoundsToOne x then "one" else "other") =
    (if x = 1 then "one" else "other") ↔ (RoundsToOne x → x = 1) := by
  by_cases hx : x = 1
  · rw [if_pos hx, hx, if_pos roundsToOne_one]
    exact iff_of_true rfl fun _ => rfl
  · rw [if_neg hx]
    by_cases hround : RoundsToOne x
    · rw [if_pos hround]
      exact iff_of_false (by decide) fun h => hx (h hround)
    · rw [if_neg hround]
      exact iff_of_true rfl fun h => absurd h hround

/-- A decimal has the category of its value unless rounding makes a difference. -/
theorem pluralCategory_decimal_iff (hcode : library.find code = .error fault)
    (h : InRange (.decimal (.finite negative c e))) :
    (decimal (.finite negative c e)).pluralCategory library code =
        .ok (if (c * 10 ^ e : ℚ) = 1 then "one" else "other") ↔
      ¬ RoundsOut (c * 10 ^ e) ∧ (RoundsToOne (c * 10 ^ e) → (c * 10 ^ e : ℚ) = 1) := by
  obtain ⟨hfails, hanswers⟩ := isUnit_decimal h
  by_cases hout : RoundsOut (c * 10 ^ e)
  · rw [pluralCategory_of_overflow hcode (hfails hout)]
    exact iff_of_false nofun fun h => h.1 hout
  · rw [pluralCategory_of_isUnit hcode (hanswers hout), Except.ok.injEq]
    simp only [decide_eq_true_eq]
    rw [category_eq_iff, and_iff_right hout]

/-- **The category where the locale is not known.** For every library and every code that it does
not find, the category is `one` for the absolute value one and `other` for any other value, unless a
decimal is rounded to one without being one, or is rounded out of the range of results. A decimal
that is rounded to one has the category `one`, and a decimal that is rounded out of the range has no
category. Neither happens to a decimal with no more digits than the precision. -/
theorem pluralCategory_of_unknown (hcode : library.find code = .error fault)
    (hq : n.value? = some q) (hrange : n.InRange) :
    (n.pluralCategory library code = .ok (if |q| = 1 then "one" else "other") ↔
      ∀ d, n = .decimal d → ¬ RoundsOut |q| ∧ (RoundsToOne |q| → |q| = 1)) ∧
    (∀ d, n = .decimal d →
      (RoundsToOne |q| → n.pluralCategory library code = .ok "one") ∧
      (RoundsOut |q| → n.pluralCategory library code = .error (.number .overflow))) ∧
    ∀ negative c e, n = .decimal (.finite negative c e) →
      Text.digitCount c ≤ Decimal.precision →
        ¬ RoundsOut |q| ∧ (RoundsToOne |q| → |q| = 1) := by
  by_cases hdecimal : ∃ d, n = .decimal d
  · obtain ⟨⟨negative, c, e⟩ | _ | _, rfl⟩ := hdecimal
    case finite =>
      obtain rfl := Option.some.inj hq
      have hmagnitude : |signed negative (c * 10 ^ e : ℚ)| = c * 10 ^ e :=
        abs_signed (by positivity)
      obtain ⟨hfails, hanswers⟩ := isUnit_decimal hrange
      rw [hmagnitude, pluralCategory_decimal_iff hcode hrange]
      refine ⟨⟨fun h _ _ => h, fun h => h _ rfl⟩, fun _ _ => ⟨fun hone => ?_, fun hout => ?_⟩, ?_⟩
      · have hunit := hanswers (not_roundsOut_of_roundsToOne hone)
        rw [pluralCategory_of_isUnit hcode hunit, decide_eq_true hone, if_pos rfl]
      · exact pluralCategory_of_overflow hcode (hfails hout)
      · rintro _ _ _ ⟨⟩ hdigits
        exact Decimal.exact_of_digitCount_le hdigits hrange.2
    all_goals cases hq
  · have hne (d : Decimal) : n ≠ .decimal d := fun h => hdecimal ⟨d, h⟩
    refine ⟨iff_of_true ?_ fun d h => absurd h (hne d), fun d h => absurd h (hne d),
      fun _ _ _ h => absurd h (hne _)⟩
    rw [pluralCategory_of_isUnit hcode (isUnit_of_ne_decimal hne hq)]
    simp only [decide_eq_true_eq]

/-- The next decimal above one with 30 digits. -/
def aboveOne : Number := .decimal (.finite false (10 ^ 29 + 1) (-29))

/-- The negative decimal with 29 digits that is farthest from zero. -/
def farthest : Number := .decimal (.finite true (10 ^ 29 - 1) 999971)

/-- The library that knows the default locale only does not know another one. -/
theorem find_lone :
    LocaleLibrary.lone.find "xx_YY" = .error (.unknown "unknown locale 'xx_YY'") := by
  have hcode : Locale.normalize "xx_YY" ≠ Locale.normalize Locale.defaultCode := by decide
  have hreport : "unknown locale " ++ Text.quotedString (Locale.normalize "xx_YY") =
      "unknown locale 'xx_YY'" := by decide +kernel
  rw [LocaleLibrary.lone, LocaleLibrary.find_single_of_ne hcode, hreport]

/-- Just above one is taken for one, the farthest decimal has no category, one with trailing zeros
is one, and a large integer is other. -/
theorem pluralCategory_of_unknown_rounded :
    aboveOne.pluralCategory .lone "xx_YY" = .ok "one" ∧
      farthest.pluralCategory .lone "xx_YY" = .error (.number .overflow) ∧
      (decimal (.finite true 100 (-2))).pluralCategory .lone "xx_YY" = .ok "one" ∧
      (int (10 ^ 30)).pluralCategory .lone "xx_YY" = .ok "other" := by
  have habove : aboveOne.InRange := by decide +kernel
  have hfarthest : farthest.InRange := by decide +kernel
  have hone : (decimal (.finite true 100 (-2))).InRange := by decide +kernel
  refine ⟨?_, ?_, ?_, ?_⟩
  · refine ((pluralCategory_of_unknown find_lone rfl habove).2.1 _ rfl).1 ?_
    rw [abs_signed (by positivity), RoundsToOne]
    norm_num
  · refine ((pluralCategory_of_unknown find_lone rfl hfarthest).2.1 _ rfl).2 ?_
    have hsplit : Decimal.maxPower = 28 + 999971 := by decide
    have hpos : (0 : ℚ) < 10 ^ (999971 : Int) := zpow_pos (by norm_num) _
    rw [abs_signed (by positivity), RoundsOut, hsplit, zpow_add₀ (by norm_num)]
    generalize (10 : ℚ) ^ (999971 : Int) = u at *
    norm_num
    linarith
  · refine ((pluralCategory_of_unknown find_lone rfl hone).2.1 _ rfl).1 ?_
    rw [abs_signed (by positivity), RoundsToOne]
    norm_num
  · have hvalue : (int (10 ^ 30)).value? = some ((10 ^ 30 : Int) : ℚ) := rfl
    rw [(pluralCategory_of_unknown find_lone hvalue trivial).1.2 nofun]
    norm_num

/-- **Not every value is told from one:** a decimal that is rounded to one has its category. -/
theorem not_pluralCategory_of_unknown :
    ¬ ∀ (library : LocaleLibrary) (code : String) (fault : LocaleFault) (n : Number) (q : ℚ),
      library.find code = .error fault → n.value? = some q → n.InRange →
        n.pluralCategory library code = .ok (if |q| = 1 then "one" else "other") := by
  intro h
  have hrange : aboveOne.InRange := by decide +kernel
  have hunit : aboveOne.isUnit = .ok true := by decide +kernel
  have hne : ((10 ^ 29 + 1 : Nat) * 10 ^ (-29 : Int) : ℚ) ≠ 1 := by norm_num
  have hother := h .lone "xx_YY" _ aboveOne _ find_lone rfl hrange
  rw [pluralCategory_of_isUnit find_lone hunit, abs_signed (by positivity), if_neg hne] at hother
  exact absurd (Except.ok.inj hother) (by decide)

end Number
end Phrasebook
