/-
# Numbers

The numbers that a caller can pass (`PluralOperand`) are integers, binary numbers and
decimals. Numbers of different kinds are equal if their exact values are; the sign of a zero
does not count, and a value that is no number equals nothing.

The exact value of a finite number is kept as an integer without trailing zeros times a
power of ten, so that comparing never writes out a large power.
-/

import Phrasebook.Number.Binary64.Shortest
import Phrasebook.Number.Fault

namespace Phrasebook

/-- A number as callers pass it. -/
inductive Number where
  | int (n : Int)
  | float (x : Binary64)
  | decimal (d : Decimal)
  deriving DecidableEq

namespace Number

/-- A sign, a coefficient and a power of ten in lowest terms. -/
def lowestTerms (negative : Bool) (coefficient : Nat) (power : Int) : Int × Int :=
  if coefficient = 0 then (0, 0)
  else
    let (coefficient, power) := Decimal.withoutZeros coefficient power
    (if negative then -(coefficient : Int) else coefficient, power)

/-- The exact value of a finite number: a coefficient without trailing zeros and a power of
ten. -/
def exactValue? : Number → Option (Int × Int)
  | int n => some (lowestTerms (n < 0) n.natAbs 0)
  | float (.finite negative rank) =>
    let (coefficient, power) := Binary64.decimalQuotient rank
    some (lowestTerms negative coefficient power)
  | float (.infinite _) => none
  | float .nan => none
  | decimal (.finite negative coefficient power) => some (lowestTerms negative coefficient power)
  | decimal (.infinite _) => none
  | decimal (.nan ..) => none

/-- The sign of an infinite number. -/
def infinity? : Number → Option Bool
  | float (.infinite negative) => some negative
  | decimal (.infinite negative) => some negative
  | _ => none

/-- Whether two numbers are equal in value. -/
def same (x y : Number) : Bool :=
  match x.exactValue?, y.exactValue? with
  | some v, some w => v == w
  | none, none => x.infinity?.isSome && x.infinity? == y.infinity?
  | _, _ => false

/-- Whether a number is a zero of any kind and sign. -/
def isZero : Number → Bool
  | int n => n == 0
  | float x => x.isZero
  | decimal d => d.isZero

/-- Whether a number is finite. Integers are tested as binary numbers, which has no answer for
those that are out of range. -/
def isFinite : Number → Except NumberFault Bool
  | int n => if n.natAbs < Binary64.integerBound then .ok true else .error .beyondBinary
  | float x => .ok x.isFinite
  | decimal d => .ok d.isFinite

/-- The numbers whose numerals are too long to be written have more digits than this. -/
def maxDigits : Nat := 4300

/-- An integer written down. -/
def numeral (n : Int) : Except NumberFault String :=
  if n.natAbs < tenTo maxDigits then .ok (String.ofList (Text.signedNumeral n))
  else .error .longNumeral

/-- The text of a number. -/
def text : Number → Except NumberFault String
  | int n => numeral n
  | float x => .ok x.text
  | decimal d => .ok d.text

end Number

end Phrasebook
