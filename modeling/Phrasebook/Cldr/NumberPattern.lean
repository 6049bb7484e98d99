/-
# Patterns for numbers

A pattern is a number with text before and after it. In the number, `0` is a digit that is
always shown, `#` a digit that is shown if need be, the last point separates the fraction,
and the last two commas before it give the size of the last group of digits and the size of
all other groups. A pattern after a semicolon gives the texts around negative numbers;
without it, negative numbers have a minus sign in front. With a percent sign around the
number, numbers are multiplied by 100, with a per mille sign by 1000.

Text between single quotes is literal, and two single quotes are one.
-/

import Phrasebook.Number.Basic
import Phrasebook.Number.Decimal.Context
import Phrasebook.Text.Pieces

namespace Phrasebook
namespace Cldr

namespace Decimal

open Phrasebook.Decimal

/-- A decimal times a power of ten. -/
def scale (d : Decimal) (power : Int) : Except NumberFault Decimal :=
  match d with
  | finite negative coefficient exponent => rounded negative coefficient (exponent + power)
  | infinite negative => .ok (infinite negative)
  | nan negative false payload => .ok (nan negative false payload)
  | nan _ true _ => .error .invalidOperation

/-- A decimal with the trailing zeros of its coefficient removed; zero has the exponent zero. -/
def normalized : Decimal → Except NumberFault Decimal
  | finite negative coefficient exponent =>
    (rounded negative coefficient exponent).map fun
      | finite negative coefficient exponent =>
        if coefficient = 0 then finite negative 0 0
        else
          let (coefficient, exponent) := withoutZeros coefficient exponent
          finite negative coefficient exponent
      | d => d
  | infinite negative => .ok (infinite negative)
  | nan negative false payload => .ok (nan negative false payload)
  | nan _ true _ => .error .invalidOperation

/-- A decimal with the given number of digits after the point. An infinity or a result with
too many digits is no valid operation. -/
def withPlaces (places : Nat) : Decimal → Except NumberFault Decimal
  | finite negative coefficient exponent =>
    let wanted : Int := -(places : Int)
    let tooLong := (precision : Int) < adjusted coefficient exponent + 1 - wanted
    if coefficient = 0 then .ok (finite negative 0 wanted)
    else if tooLong then .error .invalidOperation
    else
      let result :=
        if wanted ≤ exponent then coefficient * tenTo (exponent - wanted).toNat
        else coarsen coefficient (wanted - exponent).toNat
      if precision < Text.digitCount result then .error .invalidOperation
      else .ok (finite negative result wanted)
  | infinite _ => .error .invalidOperation
  | nan negative false payload => .ok (nan negative false payload)
  | nan _ true _ => .error .invalidOperation

end Decimal

/-- The texts before and after a number. -/
structure Affixes where
  before : List Char
  after : List Char
  deriving DecidableEq

/-- What a locale puts between the digits of a number. -/
structure NumberSymbols where
  point : String
  separator : String
  deriving DecidableEq

/-- A pattern for numbers. -/
structure NumberPattern where
  /-- The texts around numbers without a minus sign. -/
  positive : Affixes
  /-- The texts around numbers with a minus sign. -/
  negative : Affixes
  /-- Whether there is a number between the texts. -/
  hasNumber : Bool
  /-- The least number of digits before the point. -/
  minInteger : Nat
  /-- The least number of digits after the point. -/
  minFraction : Nat
  /-- The greatest number of digits after the point. -/
  maxFraction : Nat
  /-- The size of the last group of digits before the point. -/
  lastGroup : Nat
  /-- The size of the other groups. -/
  otherGroups : Nat
  deriving DecidableEq

namespace NumberPattern

/-- Whether a character ends the text before a number. -/
def startsNumber (c : Char) : Bool :=
  Text.isAsciiDigit c || c == '@' || c == '#' || c == '.' || c == ','

/-- Whether a character goes on with a number. -/
def continuesNumber (c : Char) : Bool := startsNumber c || c == 'E' || c == '+'

/-- The text before a number, and the rest. Nothing between quotes starts a number. -/
def takeBefore : (quoted : Bool) → List Char → List Char × List Char
  | _, [] => ([], [])
  | true, c :: s =>
    let (front, rest) := takeBefore (c ≠ '\'') s
    (c :: front, rest)
  | false, c :: s =>
    if startsNumber c then ([], c :: s)
    else
      let (front, rest) := takeBefore (c = '\'' && s.contains '\'') s
      (c :: front, rest)

/-- The texts around a number, and the number. The text after it ends with the line. -/
def split (s : List Char) : Affixes × List Char :=
  let (before, rest) := takeBefore false s
  (⟨before, (rest.dropWhile continuesNumber).takeWhile (· ≠ '\n')⟩, rest.takeWhile continuesNumber)

/-- The number of digits that are always shown, and of those that can be shown. -/
def digitBounds : List Char → Nat × Nat
  | [] => (0, 0)
  | c :: s =>
    let (least, most) := digitBounds s
    if c = '0' ∨ c = '@' then (least + 1, most + 1)
    else if c = '#' then (least, most + 1)
    else if c = ',' then (least, most)
    else (0, 0)

/-- The part of a number before the last point, and the part after it. -/
def atPoint (s : List Char) : List Char × List Char :=
  match Text.cut '.' s.reverse with
  | (fraction, some whole) => (whole.reverse, fraction.reverse)
  | (_, none) => (s, [])

/-- A size for groups that no number reaches. -/
def ungrouped : Nat := 1000

/-- The size of the last group of digits and of the other groups. -/
def groupSizes (whole : List Char) : Nat × Nat :=
  match Text.cut ',' whole.reverse with
  | (_, none) => (ungrouped, ungrouped)
  | (last, some rest) =>
    match Text.cut ',' rest with
    | (_, none) => (last.length, last.length)
    | (other, some _) => (last.length, other.length)

/-- The pattern that a text describes. -/
def read (text : String) : NumberPattern :=
  let (first, second) := Text.cut ';' text.toList
  let (positive, digits) := split first
  let digits := (Text.cut 'E' digits).1
  let (whole, fraction) := atPoint digits
  let (lastGroup, otherGroups) := groupSizes whole
  { positive
    negative :=
      match second with
      | some s => (split s).1
      | none => { positive with before := '-' :: positive.before }
    hasNumber := !digits.isEmpty
    minInteger := (digitBounds whole).1
    minFraction := (digitBounds fraction).1
    maxFraction := (digitBounds fraction).2
    lastGroup
    otherGroups }

/-- Whether a character stands in one of the texts. -/
def mentions (p : NumberPattern) (c : Char) : Bool :=
  p.positive.before.contains c || p.negative.before.contains c ||
    p.positive.after.contains c || p.negative.after.contains c

/-- The power of ten that numbers are multiplied by. -/
def power (p : NumberPattern) : Nat :=
  if p.mentions '%' then 2 else if p.mentions '‰' then 3 else 0

/-- Digits in groups, from the right. A group of size zero takes all digits that are left. -/
def grouped (separator : List Char) (size others : Nat) (s : List Char) : List Char :=
  if _h : size < s.length then
    let kept := if size = 0 then 0 else s.length - size
    grouped separator others others (s.take kept) ++ separator ++ s.drop kept
  else s
  termination_by s.length
  decreasing_by
    rw [List.length_take]
    split <;> omega

/-- The digits before the point. -/
def wholeChars (p : NumberPattern) (symbols : NumberSymbols) (s : List Char) : List Char :=
  grouped symbols.separator.toList p.lastGroup p.otherGroups (s.leftpad p.minInteger '0')

/-- The point and the digits after it; nothing where no digit has to be shown. -/
def fractionChars (p : NumberPattern) (symbols : NumberSymbols) (s : List Char) : List Char :=
  let s := s.rightpad (max 1 p.minFraction) '0'
  if p.maxFraction = 0 ∨ (p.minFraction = 0 ∧ s.all (· = '0')) then []
  else
    let optional := (s.drop p.minFraction).reverse.dropWhile (· = '0')
    symbols.point.toList ++ s.take p.minFraction ++ optional.reverse

/-- A decimal in digits, without a power of ten. -/
def plainChars : Decimal → List Char
  | .finite _ coefficient exponent =>
    let digits := Text.numeral coefficient
    Decimal.pointed digits (digits.length + exponent)
  | d => d.chars

/-- The digits of a decimal that has no minus sign. -/
def numberChars (p : NumberPattern) (symbols : NumberSymbols) :
    Decimal → Except NumberFault (List Char)
  | .infinite _ => .ok ['∞']
  | d =>
    (Decimal.withPlaces p.maxFraction d).map fun d =>
      let (whole, fraction) := Text.cut '.' (plainChars d)
      p.wholeChars symbols whole ++ p.fractionChars symbols (fraction.getD [])

/-- Where in quoted text a character stands. -/
inductive QuoteState where
  | outside
  | opened
  | inside

/-- Text without the quotes around literal text. A quote that is not closed stays. -/
def unquoted : QuoteState → List Char → List Char
  | _, [] => []
  | .outside, c :: s =>
    if c = '\'' ∧ s.contains '\'' then unquoted .opened s else c :: unquoted .outside s
  | .opened, c :: s => c :: unquoted (if c = '\'' then .outside else .inside) s
  | .inside, c :: s => if c = '\'' then unquoted .outside s else c :: unquoted .inside s

/-- A decimal in the form of a pattern. -/
def showDecimal (p : NumberPattern) (symbols : NumberSymbols) (d : Decimal) :
    Except NumberFault (List Char) := do
  let scaled ← Decimal.scale d p.power
  let magnitude ← Decimal.normalized (← scaled.abs)
  let digits ← p.numberChars symbols magnitude
  let affixes := if scaled.isNegative then p.negative else p.positive
  return unquoted .outside (affixes.before ++ (if p.hasNumber then digits else []) ++ affixes.after)

end NumberPattern

/-- A number as a decimal, binary numbers as they are written. -/
def toDecimal : Number → Except NumberFault Decimal
  | .int n => (Number.numeral n).map fun _ => Decimal.ofInt n
  | .float x => .ok x.toDecimal
  | .decimal d => .ok d

/-- A number in the form of a pattern. -/
def NumberPattern.showNumber (p : NumberPattern) (symbols : NumberSymbols) (n : Number) :
    Except NumberFault String := do
  return String.ofList (← p.showDecimal symbols (← toDecimal n))

/-- Groups of two sizes, a number of places between two bounds, and texts around negative
numbers. -/
example :
    ((NumberPattern.read "#,##,##0.###").showNumber ⟨".", ","⟩
      (.decimal (.finite false 12345678905 (-4)))).toOption = some "12,34,567.89" ∧
    ((NumberPattern.read "#,##0.00;(#)").showNumber ⟨".", ","⟩ (.int (-1234))).toOption =
      some "(1,234.00)" := by
  decide +kernel

end Cldr
end Phrasebook
