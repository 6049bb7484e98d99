/-
# Decimal arithmetic

Arithmetic on decimals (`abs` of a `Decimal`) has 28 significant digits; results are rounded
to the nearest decimal with that many digits, half way to an even last digit. The power of
ten of the first digit goes from -999999 to 999999: above it arithmetic fails, and below it
results lose digits, down to the exponent -1000026.
-/

import Phrasebook.Number.Decimal.Basic
import Phrasebook.Number.Fault
import Phrasebook.Number.Power
import Phrasebook.Number.Rounding

namespace Phrasebook

namespace Decimal

/-- The number of significant digits. -/
def precision : Nat := 28

/-- The largest power of ten of the first digit of a result. -/
def maxPower : Int := 999999

/-- The least exponent of a result. -/
def minExponent : Int := -1000026

/-- A coefficient with fewer digits, for a larger exponent. Nothing is left of a coefficient that
loses more digits than it has. -/
def coarsen (coefficient : Nat) (places : Nat) : Nat :=
  if Text.digitCount coefficient < places then 0 else nearestEven coefficient (tenTo places)

/-- The decimal with a coefficient that may have just become too long by one digit. -/
def checked (negative : Bool) (coefficient : Nat) (exponent : Int) :
    Except NumberFault Decimal :=
  let (coefficient, exponent) :=
    if precision < Text.digitCount coefficient then (coefficient / 10, exponent + 1)
    else (coefficient, exponent)
  if maxPower < adjusted coefficient exponent ∧ coefficient ≠ 0 then .error .overflow
  else .ok (finite negative coefficient exponent)

/-- A finite decimal rounded to the precision and the range of results. -/
def rounded (negative : Bool) (coefficient : Nat) (exponent : Int) :
    Except NumberFault Decimal :=
  if coefficient = 0 then .ok (finite negative 0 (max minExponent (min exponent maxPower)))
  else if maxPower < adjusted coefficient exponent then .error .overflow
  else
    let wanted := max minExponent (adjusted coefficient exponent + 1 - precision)
    if exponent < wanted then
      checked negative (coarsen coefficient (wanted - exponent).toNat) wanted
    else .ok (finite negative coefficient exponent)

/-- The absolute value. -/
def abs : Decimal → Except NumberFault Decimal
  | finite _ coefficient exponent => rounded false coefficient exponent
  | infinite _ => .ok (infinite false)
  | nan negative false payload => .ok (nan negative false payload)
  | nan _ true _ => .error .invalidOperation

/-- A coefficient without trailing zeros, and the exponent that makes up for them. -/
def withoutZeros (coefficient : Nat) (exponent : Int) : Nat × Int :=
  if h : coefficient ≠ 0 ∧ coefficient % 10 = 0 then
    have : coefficient / 10 < coefficient := Nat.div_lt_self (Nat.pos_of_ne_zero h.1) (by decide)
    withoutZeros (coefficient / 10) (exponent + 1)
  else (coefficient, exponent)
  termination_by coefficient

end Decimal

end Phrasebook
