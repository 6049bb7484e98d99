/-
# Patterns for dates and times

A pattern is literal text with fields in between. A field is a run of one letter, and the
length of the run says how much of it is shown. Text between single quotes is literal,
and two single quotes in a row are one single quote, inside a quoted text too. A quoted
text that does not end shows nothing.

The fields are the year `y`, the month `M`, the day `d`, the day of the week `E`, the half
of the day `a`, the hours `h` up to 12 and `H` up to 23, the minute `m`, the second `s`, and
the fraction of a second `S`.
-/

import Phrasebook.Fault
import Phrasebook.Text.Case

namespace Phrasebook
namespace Cldr

/-- What a field shows. -/
inductive DateField where
  | year
  | month
  | day
  | weekday
  | dayPeriod
  | hour12
  | hour24
  | minute
  | second
  | fraction
  deriving DecidableEq

namespace DateField

/-- The letter of a field. -/
def letter : DateField → Char
  | year => 'y'
  | month => 'M'
  | day => 'd'
  | weekday => 'E'
  | dayPeriod => 'a'
  | hour12 => 'h'
  | hour24 => 'H'
  | minute => 'm'
  | second => 's'
  | fraction => 'S'

/-- All fields. -/
def all : List DateField :=
  [year, month, day, weekday, dayPeriod, hour12, hour24, minute, second, fraction]

/-- The field of a letter. -/
def ofLetter? (c : Char) : Option DateField := all.find? (·.letter == c)

/-- The greatest length of a field, if there is one. -/
def maxLength? : DateField → Option Nat
  | year => none
  | month => some 5
  | day => some 2
  | weekday => some 6
  | dayPeriod => some 5
  | hour12 => some 2
  | hour24 => some 2
  | minute => some 2
  | second => some 2
  | fraction => none

end DateField

/-- A piece of a pattern. -/
inductive DatePiece where
  | literal (c : Char)
  | field (f : DateField) (length : Nat)
  deriving DecidableEq

/-- The names that a locale has for the parts of a date. -/
structure CalendarNames where
  months : List String
  monthsShort : List String
  weekdays : List String
  weekdaysShort : List String
  dayPeriods : String × String

/-- A date, a time of the day, or both. -/
structure Moment where
  date : Option Date
  clock : Option Clock

namespace DatePattern

/-- One more letter of a field in front of the pieces. -/
def consField (f : DateField) : List DatePiece → List DatePiece
  | .field g n :: rest =>
    if f = g then .field g (n + 1) :: rest else .field f 1 :: .field g n :: rest
  | rest => .field f 1 :: rest

/-- The pieces of a pattern, or of the rest of a pattern from inside a quoted text on, which is
nothing if the quoted text does not end. -/
def pieces? : (quoted : Bool) → List Char → Option (List DatePiece)
  | false, [] => some []
  | true, [] => none
  | quoted, '\'' :: '\'' :: s => (pieces? quoted s).map (.literal '\'' :: ·)
  | true, '\'' :: s => pieces? false s
  | false, '\'' :: s => some ((pieces? true s).getD [])
  | true, c :: s => (pieces? true s).map (.literal c :: ·)
  | false, c :: s =>
    (pieces? false s).map <|
      match DateField.ofLetter? c with
      | some f => consField f
      | none => (.literal c :: ·)

/-- The pieces of a pattern, if no field is too long. -/
def read (pattern : String) : Except Fault (List DatePiece) :=
  let ps := (pieces? false pattern.toList).getD []
  let tooLong := ps.find? fun
    | .literal _ => false
    | .field f n => (f.maxLength?.map (decide <| · < n)).getD false
  match tooLong with
  | some (.field f n) =>
    let letters := Text.quotedString (String.ofList (List.replicate n f.letter))
    .error (.raised "ValueError" ("Invalid length for field: " ++ letters) true)
  | _ => .ok ps

/-- The first letter of a name as a capital. -/
def initial (name : List Char) : List Char := Text.upper (name.take 1)

/-- A name in full, shortened, or as a single letter. -/
def named (length : Nat) (full short : String) : List Char :=
  if length = 4 then full.toList
  else if length = 5 then initial full.toList
  else short.toList

/-- The fraction of a second with so many digits, as it comes out in binary arithmetic: rounded
to that many digits, then multiplied by the power of ten and cut off. -/
def fractionDigits (length microsecond : Nat) : Nat :=
  let exact := Binary64.roundedQuotient microsecond 1000000
  let scaled := nearestEven (exact.1 * tenTo length) exact.2
  let rounded := Binary64.roundedQuotient scaled (tenTo length)
  let product := Binary64.roundedQuotient (rounded.1 * tenTo length) rounded.2
  product.1 / product.2

/-- What a field shows of a moment. -/
def show? (names : CalendarNames) (m : Moment) (length : Nat) : DateField → Option (List Char)
  | .year =>
    m.date.map fun d =>
      let s := Text.padded length d.year
      if length = 2 then s.drop (s.length - 2) else s
  | .month =>
    m.date.map fun d =>
      if length ≤ 2 then Text.padded length d.month
      else named length (names.months.getD (d.month - 1) "")
        (names.monthsShort.getD (d.month - 1) "")
  | .day => m.date.map fun d => Text.padded length d.day
  | .weekday =>
    m.date.map fun d =>
      named length (names.weekdays.getD d.weekday "") (names.weekdaysShort.getD d.weekday "")
  | .dayPeriod =>
    m.clock.map fun c =>
      (if c.hour.val < 12 then names.dayPeriods.1 else names.dayPeriods.2).toList
  | .hour12 => m.clock.map fun c =>
    Text.padded length (if c.hour.val % 12 = 0 then 12 else c.hour.val % 12)
  | .hour24 => m.clock.map fun c => Text.padded length c.hour
  | .minute => m.clock.map fun c => Text.padded length c.minute
  | .second => m.clock.map fun c => Text.padded length c.second
  | .fraction => m.clock.map fun c => Text.padded length (fractionDigits length c.microsecond)

/-- The fault where a date or a time has no such field. -/
def missingField : Fault := .raised "AttributeError" "" false

/-- A moment in the form of the pieces of a pattern. -/
def showAll (names : CalendarNames) (m : Moment) : List DatePiece → Except Fault (List Char)
  | [] => .ok []
  | .literal c :: rest => (showAll names m rest).map (c :: ·)
  | .field f n :: rest =>
    match show? names m n f with
    | none => .error missingField
    | some s => (showAll names m rest).map (s ++ ·)

end DatePattern

end Cldr
end Phrasebook
