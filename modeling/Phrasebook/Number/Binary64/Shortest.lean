/-
# Shortest text of a binary number

A binary number is written with the fewest digits from which it can be read back, and
among those with as many digits as near to it as possible. With `d` digits only two
decimals can be meant, the neighbours of the number on the grid of decimals with `d`
digits, so the first `d` for which one of them reads back is the answer; 17 digits always
suffice.

The text is positional from 0.0001 up to below 10 ^ 16, with at least one digit after the
point, and has a power of ten of at least two digits elsewhere.
-/

import Phrasebook.Number.Binary64.Basic
import Phrasebook.Number.Decimal.Context
import Phrasebook.Number.Decimal.Numeral

namespace Phrasebook
namespace Binary64

/-- A coefficient times a power of ten as numerator and denominator. -/
def tenfold (coefficient : Nat) : Int → Nat × Nat
  | .ofNat e => (coefficient * tenTo e, 1)
  | .negSucc e => (coefficient, tenTo (e + 1))

/-- The rank nearest to a coefficient times a power of ten. -/
def decimalRank (coefficient : Nat) (power : Int) : Nat :=
  let (num, den) := tenfold coefficient power
  nearestRank num den

/-- The power of ten of the first digit of a positive magnitude. All magnitudes have a digit
within 400 places behind the point. -/
def firstPower (rank : Nat) : Int :=
  let (num, den) := quotient rank
  (Text.digitCount (num * tenTo 400 / den) : Int) - 401

/-- The decimal with `digits` digits that reads back as the magnitude of a rank. -/
def onGrid? (rank : Nat) (top : Int) (digits : Nat) : Option (Nat × Int) :=
  let power := top + 1 - digits
  let (x, y) := quotient rank
  let (x, y) :=
    match power with
    | .ofNat e => (x, y * tenTo e)
    | .negSucc e => (x * tenTo (e + 1), y)
  let low := x / y
  let lowReads := decimalRank low power == rank
  let highReads := decimalRank (low + 1) power == rank
  let lowIsNearer :=
    2 * x < (2 * low + 1) * y || (2 * x == (2 * low + 1) * y && low % 2 == 0)
  if lowReads && (!highReads || lowIsNearer) then some (low, power)
  else if highReads then some (low + 1, power)
  else none

/-- The shortest decimal that reads back as the magnitude of a rank, without trailing zeros. -/
def shortest (rank : Nat) : Nat × Int :=
  if rank = 0 then (0, 0)
  else
    let (coefficient, power) :=
      ((List.range 17).findSome? fun d => onGrid? rank (firstPower rank) (d + 1)).getD
        (decimalQuotient rank)
    Decimal.withoutZeros coefficient power

/-- Whether a decimal is written without a power of ten. -/
def isPositional (coefficient : Nat) (power : Int) : Bool :=
  -4 ≤ Decimal.adjusted coefficient power && Decimal.adjusted coefficient power < 16

/-- A power of ten in at least two digits. -/
def powerChars (power : Int) : List Char :=
  'e' :: (if 0 ≤ power then '+' else '-') :: Text.padded 2 power.natAbs

/-- The text of the magnitude of a rank. -/
def magnitudeChars (rank : Nat) : List Char :=
  let (coefficient, power) := shortest rank
  let digits := Text.numeral coefficient
  let first := Decimal.adjusted coefficient power
  if isPositional coefficient power then
    Decimal.pointed digits (first + 1) ++ if 0 ≤ power then ['.', '0'] else []
  else Decimal.pointed digits 1 ++ powerChars first

/-- The text of a number. -/
def chars : Binary64 → List Char
  | nan => ['n', 'a', 'n']
  | infinite negative => (if negative then ['-'] else []) ++ ['i', 'n', 'f']
  | finite negative rank => (if negative then ['-'] else []) ++ magnitudeChars rank

/-- The text of a number. -/
def text (x : Binary64) : String := String.ofList x.chars

/-- The decimal that the text of a number denotes. -/
def toDecimal : Binary64 → Decimal
  | nan => .nan false false 0
  | infinite negative => .infinite negative
  | finite negative rank =>
    let (coefficient, power) := shortest rank
    if isPositional coefficient power && 0 ≤ power then
      .finite negative (coefficient * tenTo (power.toNat + 1)) (-1)
    else .finite negative coefficient power

/-- The number nearest to a decimal. Decimals far out of range need no arithmetic. -/
def ofDecimal : Decimal → Binary64
  | .nan .. => nan
  | .infinite negative => infinite negative
  | .finite negative coefficient power =>
    let first := Decimal.adjusted coefficient power
    if coefficient = 0 ∨ first < -400 then ofRank negative 0
    else if 400 < first then infinite negative
    else ofRank negative (decimalRank coefficient power)

/-- The number that a numeral denotes. -/
def read? (s : List Char) : Option Binary64 := (Decimal.read? s).map ofDecimal

/-- The text of small and large numbers, and of numbers that have no short decimal. -/
example : (nearest false 3 10).chars = "0.3".toList ∧ (nearest true 1 1).chars = "-1.0".toList ∧
    (nearest false (tenTo 16) 1).chars = "1e+16".toList ∧
    (ofRank false 1).chars = "5e-324".toList := by
  decide +kernel

end Binary64
end Phrasebook
