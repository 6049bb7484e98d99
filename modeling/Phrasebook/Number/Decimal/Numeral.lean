/-
# Reading decimals

A numeral, which `Decimal` is made from, is an optional sign and then digits with at most
one point among them, and perhaps a power of ten after the letter `e`; or one of the words
for an infinity, or for no number with digits as its payload. Blanks around it and
underscores anywhere do not count, neither does the case of letters, and the digits may be
those of any script.

A numeral is refused if its power of ten is out of the range that decimals can have.
-/

import Phrasebook.Number.Decimal.Basic
import Phrasebook.Text.Blank

namespace Phrasebook
namespace Decimal

/-- The largest power of ten of a first digit. -/
def largestPower : Int := 999999999999999999

/-- The least exponent. -/
def leastExponent : Int := -1999999999999999997

/-- A numeral without what does not count: ASCII digits for all digits, small letters for
ASCII letters. -/
def plain (s : List Char) : List Char :=
  ((Text.trim s).filter (· ≠ '_')).map fun c =>
    match Text.digit? c with
    | some d => Text.digitChar d
    | none => c.toLower

/-- A text without its sign, and whether the sign is a minus. -/
def unsigned : List Char → Bool × List Char
  | '-' :: s => (true, s)
  | '+' :: s => (false, s)
  | s => (false, s)

/-- The number that a text of at least one digit denotes. -/
def digits? (s : List Char) : Option Nat :=
  if s ≠ [] ∧ s.all Text.isAsciiDigit then some (Text.asciiValue s) else none

/-- The power of ten that a numeral ends with. -/
def power? : List Char → Option Int
  | [] => some 0
  | 'e' :: s =>
    let (negative, s) := unsigned s
    (digits? s).map fun n => if negative then -(n : Int) else n
  | _ => none

/-- Whether a coefficient and an exponent are in the range of decimals. -/
def inRange (coefficient : Nat) (exponent : Int) : Bool :=
  leastExponent ≤ exponent &&
    (if coefficient = 0 then exponent else adjusted coefficient exponent) ≤ largestPower

/-- The finite decimal that a text without sign denotes. -/
def readFinite? (negative : Bool) (s : List Char) : Option Decimal :=
  let whole := s.takeWhile Text.isAsciiDigit
  let behind := s.dropWhile Text.isAsciiDigit
  let (fraction, rest) :=
    match behind with
    | '.' :: t => (t.takeWhile Text.isAsciiDigit, t.dropWhile Text.isAsciiDigit)
    | t => ([], t)
  if whole = [] ∧ fraction = [] then none
  else
    (power? rest).bind fun power =>
      let coefficient := Text.asciiValue (whole ++ fraction)
      let exponent := power - (fraction.length : Int)
      if inRange coefficient exponent then some (finite negative coefficient exponent) else none

/-- The payload that follows a word for no number. -/
def payload? (s : List Char) : Option Nat := if s = [] then some 0 else digits? s

/-- The decimal that a numeral denotes. -/
def read? (s : List Char) : Option Decimal :=
  let (negative, s) := unsigned (plain s)
  match s with
  | ['i', 'n', 'f'] => some (infinite negative)
  | ['i', 'n', 'f', 'i', 'n', 'i', 't', 'y'] => some (infinite negative)
  | 'n' :: 'a' :: 'n' :: s => (payload? s).map (nan negative false)
  | 's' :: 'n' :: 'a' :: 'n' :: s => (payload? s).map (nan negative true)
  | s => readFinite? negative s

end Decimal
end Phrasebook
