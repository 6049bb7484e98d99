/-
# Decimal numbers

A decimal number is a sign, a coefficient and a power of ten; it keeps the trailing
zeros that it was written with, and a zero keeps its sign. Beside the finite numbers
there are two infinities, and values that are no number, quiet or signaling ones, with
a payload of digits.
-/

import Phrasebook.Text.Digit

namespace Phrasebook

/-- A decimal number. -/
inductive Decimal where
  | finite (negative : Bool) (coefficient : Nat) (exponent : Int)
  | infinite (negative : Bool)
  | nan (negative signaling : Bool) (payload : Nat)
  deriving DecidableEq

namespace Decimal

/-- Whether a decimal is neither infinite nor no number at all. -/
def isFinite : Decimal → Bool
  | finite .. => true
  | infinite _ => false
  | nan .. => false

/-- Whether a decimal is a zero. -/
def isZero : Decimal → Bool
  | finite _ coefficient _ => coefficient == 0
  | infinite _ => false
  | nan .. => false

/-- Whether a decimal has a minus sign. -/
def isNegative : Decimal → Bool
  | finite negative _ _ => negative
  | infinite negative => negative
  | nan negative _ _ => negative

/-- The power of ten of the first digit. -/
def adjusted (coefficient : Nat) (exponent : Int) : Int :=
  exponent + (Text.digitCount coefficient : Int) - 1

/-- An integer as a decimal without fraction. -/
def ofInt (n : Int) : Decimal := finite (n < 0) n.natAbs 0

/-- The digits of the payload of a value that is no number; nothing for zero. -/
def payloadDigits (payload : Nat) : List Char := if payload = 0 then [] else Text.numeral payload

/-- Digits with a point, a number of places after the first digit. A place before the
digits or behind them is reached by zeros. -/
def pointed (digits : List Char) (place : Int) : List Char :=
  match place with
  | .negSucc n => '0' :: '.' :: List.replicate (n + 1) '0' ++ digits
  | .ofNat 0 => '0' :: '.' :: digits
  | .ofNat (n + 1) =>
    if digits.length ≤ n + 1 then digits ++ List.replicate (n + 1 - digits.length) '0'
    else digits.take (n + 1) ++ '.' :: digits.drop (n + 1)

/-- An integer with its sign, whichever it is. -/
def withSign (n : Int) : List Char := (if 0 ≤ n then ['+'] else []) ++ Text.signedNumeral n

/-- The text of a decimal: plain if the exponent is not positive and at most five zeros
follow the point before the first digit, otherwise one digit before the point and a power of
ten. -/
def chars : Decimal → List Char
  | finite negative coefficient exponent =>
    let digits := Text.numeral coefficient
    let power := adjusted coefficient exponent
    (if negative then ['-'] else []) ++
      if exponent ≤ 0 ∧ -6 ≤ power then pointed digits (power + 1)
      else pointed digits 1 ++ 'E' :: withSign power
  | infinite negative => (if negative then ['-'] else []) ++ "Infinity".toList
  | nan negative signaling payload =>
    (if negative then ['-'] else []) ++ (if signaling then "sNaN" else "NaN").toList ++
      payloadDigits payload

/-- The text of a decimal. -/
def text (d : Decimal) : String := String.ofList d.chars

end Decimal

end Phrasebook
