/-
# Operands of plural rules

The rules of a language look at a number through its operands: the absolute value, the
integer part, and how many digits follow the point and which. Of integers, and of binary
numbers without a fraction, no digits follow the point.

The digits after the point are taken from the end of the coefficient of a decimal, so
that zeros between the point and the first other digit do not count.
-/

import Phrasebook.Fault
import Phrasebook.Number.Decimal.Context

namespace Phrasebook
namespace Cldr

/-- A magnitude that a plural rule compares, an integer or a decimal. -/
inductive Quantity where
  | whole (n : Nat)
  | decimal (coefficient : Nat) (exponent : Int)
  deriving DecidableEq

namespace Quantity

/-- The value of a quantity without fraction. -/
def integral? : Quantity → Option Nat
  | whole n => some n
  | decimal coefficient (.ofNat e) => some (coefficient * tenTo e)
  | decimal coefficient (.negSucc e) =>
    if coefficient % tenTo (e + 1) = 0 then some (coefficient / tenTo (e + 1)) else none

/-- The integer part of a quantity. -/
def integerPart : Quantity → Nat
  | whole n => n
  | decimal coefficient (.ofNat e) => coefficient * tenTo e
  | decimal coefficient (.negSucc e) => coefficient / tenTo (e + 1)

/-- The remainder by `m`. For a decimal it is no valid operation if the quotient has more digits
than the precision. -/
def remainder (m : Nat) : Quantity → Except NumberFault Quantity
  | whole n => .ok (whole (n % m))
  | decimal coefficient (.ofNat e) =>
    let n := coefficient * tenTo e
    if tenTo Decimal.precision ≤ n / m then .error .invalidOperation
    else .ok (decimal (n % m) 0)
  | decimal coefficient (.negSucc e) =>
    let divisor := m * tenTo (e + 1)
    if tenTo Decimal.precision ≤ coefficient / divisor then .error .invalidOperation
    else .ok (decimal (coefficient % divisor) (.negSucc e))

/-- The number of digits after the point. -/
def fractionDigits : Quantity → Nat
  | whole _ => 0
  | decimal _ (.ofNat _) => 0
  | decimal coefficient (.negSucc e) => min (e + 1) (Text.digitCount coefficient)

/-- The digits after the point as an integer. -/
def fraction : Quantity → Nat
  | whole _ => 0
  | decimal coefficient exponent =>
    coefficient % tenTo (decimal coefficient exponent).fractionDigits

end Quantity

/-- The operands of plural rules, by their usual letters. -/
inductive PluralOperand where
  /-- The absolute value. -/
  | n
  /-- The integer part. -/
  | i
  /-- The number of digits after the point. -/
  | v
  /-- The digits after the point. -/
  | f
  /-- The digits after the point without trailing zeros. -/
  | t
  /-- The power of ten that the number is written with; numbers are written without one. -/
  | e
  deriving DecidableEq

/-- The operand of a magnitude. -/
def Quantity.operand (q : Quantity) : PluralOperand → Quantity
  | .n => q
  | .i => whole q.integerPart
  | .v => whole q.fractionDigits
  | .f => whole q.fraction
  | .t => whole (Decimal.withoutZeros q.fraction 0).1
  | .e => whole 0

namespace Quantity

/-- The fault of taking the integer part of an infinity. -/
def ofInfinity (kind : String) : Fault :=
  .raised "OverflowError" ("cannot convert " ++ kind ++ " to integer") false

/-- The fault of taking the integer part of what is no number. -/
def ofNan (kind : String) : Fault :=
  .raised "ValueError" ("cannot convert " ++ kind ++ " to integer") true

/-- The magnitude of a finite binary number; one that is no integer counts as the decimal that it
is written as. -/
def ofBinary (rank : Fin Binary64.magnitudes) : Quantity :=
  let (num, den) := Binary64.quotient rank
  if num % den = 0 then whole (num / den)
  else
    let (coefficient, power) := Binary64.shortest rank
    decimal coefficient power

/-- The magnitude of a number. Decimals are rounded to the precision. -/
def ofNumber : Number → Except Fault Quantity
  | .int n => .ok (whole n.natAbs)
  | .float (.finite _ rank) => .ok (ofBinary rank)
  | .float (.infinite _) => .error (ofInfinity "float infinity")
  | .float .nan => .error (ofNan "float NaN")
  | .decimal d =>
    match d.abs with
    | .ok (.finite _ coefficient exponent) => .ok (decimal coefficient exponent)
    | .ok (.infinite _) => .error (ofInfinity "Infinity")
    | .ok (.nan ..) => .error (ofNan "NaN")
    | .error e => .error (.number e)

end Quantity
end Cldr
end Phrasebook
