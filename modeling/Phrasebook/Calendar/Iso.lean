/-
# Dates and times in ISO 8601

A text holds a date, and perhaps a separating character and a time with an offset. The
date is `YYYY-MM-DD` or `YYYYMMDD`, or a week `YYYY-Www` or `YYYYWww` with a day of the week
that may be left out. The time is given to the hour, the minute, the second or a fraction
of it, with or without colons, and the offset from Greenwich is `Z` or a signed time. A date
without a time means midnight. The result is the date and the time as they are written, and the
offset beside them. This is what `datetime.fromisoformat` makes of a text.

Places in the text are counted in bytes of UTF-8, and behind its end stands the character
zero. The readers accept a little more than the standard: one more character before an
offset, a colon before the fraction, and whatever follows the sixth digit of a fraction
if an offset comes after it.
-/

import Phrasebook.Calendar.Date
import Phrasebook.Calendar.Fault
import Phrasebook.Number.Power

namespace Phrasebook

/-- A date and a time as they are written, and the offset from Greenwich in seconds and
microseconds, if there is one. -/
structure OffsetDateTime where
  moment : DateTime
  offset : Option (Int × Int)
  deriving DecidableEq

namespace Iso

/-- A text with every character as often as it has bytes. -/
def bytes (s : String) : List Char := s.toList.flatMap fun c => List.replicate c.utf8Size c

/-- The first character, or zero at the end of a text. -/
def first (s : List Char) : Char := s.headD '\x00'

/-- The number that a given count of digits denotes, and the text behind them. -/
def digits? (count : Nat) (s : List Char) : Option (Nat × List Char) :=
  if (s.take count).length = count ∧ (s.take count).all Text.isAsciiDigit then
    some (Text.asciiValue (s.take count), s.drop count)
  else none

/-- The number of bytes of the date at the start of a text of at least seven bytes. -/
def dateLength? (s : List Char) : Option Nat :=
  if s.length = 7 then some 7
  else if s[4]? = some '-' then
    if s[5]? = some 'W' then
      if s[8]? = some '-' then
        if s.length = 9 then none
        else if (s[10]?.map Text.isAsciiDigit).getD false then some 8
        else some 10
      else some 8
    else some 10
  else if s[4]? = some 'W' then
    let run := 7 + ((s.drop 7).takeWhile Text.isAsciiDigit).length
    if run < 9 then some run
    else if run % 2 = 0 then some 7
    else some 8
  else some 8

/-- Whether a year has 53 weeks: it starts on a Thursday, or it is a leap year that starts on a
Wednesday. -/
def isLongYear (year : Nat) : Bool :=
  let w := Date.weekdayOf year 1 1
  w == 3 || (w == 2 && isLeapYear year)

/-- The number of the day that the first week of a year starts with. -/
def firstMonday (year : Nat) : Int :=
  let weekday : Int := Date.weekdayOf year 1 1
  (Date.dayNumber year 1 1 : Int) - weekday + if weekday ≤ 3 then 0 else 7

/-- The day of a week of a year. The first week is the one with the first Thursday. The weeks
of year zero are in no month. -/
def weekDate? (year week day : Nat) : Option (Int × Nat × Nat) :=
  let weekOk := 1 ≤ week ∧ (week ≤ 52 ∨ week = 53 ∧ 1 ≤ year ∧ isLongYear year)
  if weekOk ∧ 1 ≤ day ∧ day ≤ 7 then
    if year = 0 then some (1, 0, day)
    else some (Date.ofDayNumber (firstMonday year + 7 * ((week : Int) - 1) + ((day : Int) - 1)))
  else none

/-- The rest of a date after the week. -/
def weekDay? (dashed : Bool) (s : List Char) : Option Nat :=
  if s = [] then some 1
  else
    let s := if dashed then s.drop 1 else s
    (digits? 1 s).map (·.1)

/-- The year, the month and the day of the text of a date. -/
def date? (s : List Char) : Option (Int × Nat × Nat) := do
  let (year, s) ← digits? 4 s
  let dashed := first s == '-'
  let s := if dashed then s.drop 1 else s
  if first s = 'W' then
    let (week, s) ← digits? 2 (s.drop 1)
    if dashed && s ≠ [] && first s ≠ '-' then none
    weekDate? year week (← weekDay? dashed s)
  else
    let (month, s) ← digits? 2 s
    if dashed && first s ≠ '-' then none
    let s := if dashed then s.drop 1 else s
    let (day, s) ← digits? 2 s
    if s ≠ [] then none
    return (year, month, day)

/-- A time as it is written: hours, minutes, seconds and microseconds in any range, and
whether something is left behind it. -/
structure Reading where
  fields : List Nat
  microsecond : Nat
  leftover : Bool

/-- The microseconds of a fraction, of which only six digits count. `after` is what comes
behind the text. -/
def fraction? (fields : List Nat) (s after : List Char) : Option Reading := do
  let count := min 6 s.length
  let (n, rest) ← digits? count s
  return ⟨fields, n * tenTo (6 - count), first (rest.dropWhile Text.isAsciiDigit ++ after) ≠ '\x00'⟩

/-- The fields of a time from the one after `fields` on, of which `more + 1` may come. The text
ends before `after`; the first field decides whether there are colons. -/
def fields? (colons : Option Bool) (fields : List Nat) (after : List Char) :
    Nat → List Char → Option Reading
  | more, s => do
    let (n, s) ← digits? 2 s
    let fields := fields ++ [n]
    let c := first (s ++ after)
    let colons := colons.getD (c == ':')
    if s.length ≤ 1 then return ⟨fields, 0, c ≠ '\x00'⟩
    else if colons && c == ':' then
      match more with
      | 0 => fraction? fields (s.drop 1) after
      | more + 1 => fields? (some colons) fields after more (s.drop 1)
    else if c == '.' || c == ',' then fraction? fields (s.drop 1) after
    else if !colons then
      match more with
      | 0 => fraction? fields s after
      | more + 1 => fields? (some colons) fields after more s
    else none

/-- Hours, minutes, seconds and microseconds at the start of a text that ends before `after`. -/
def reading? (s after : List Char) : Option Reading := fields? none [] after 2 s

/-- The number of seconds that a reading stands for. -/
def seconds (r : Reading) : Nat :=
  r.fields.getD 0 0 * 3600 + r.fields.getD 1 0 * 60 + r.fields.getD 2 0

/-- Whether an offset starts with the character. -/
def startsOffset (c : Char) : Bool := c == '+' || c == '-' || c == 'Z'

/-- A time with an offset in seconds and microseconds, if it has one. -/
def time? (s : List Char) : Option (Reading × Option (Int × Int)) := do
  let clock := s.takeWhile (!startsOffset ·)
  let zone := s.dropWhile (!startsOffset ·)
  let r ← reading? clock zone
  match zone with
  | [] => if r.leftover then none else return (r, none)
  | 'Z' :: t => if first t = '\x00' then return (r, some (0, 0)) else none
  | sign :: t =>
    let o ← reading? t []
    if o.leftover then none
    let direction : Int := if sign = '-' then -1 else 1
    return (r, some (direction * seconds o, direction * o.microsecond))

/-- The separator and the time behind a date, midnight if there is nothing behind the
separator. -/
def timeAfter? (s : List Char) : Option (Reading × Option (Int × Int)) :=
  if s.length ≤ 1 then if s = [] then some (⟨[], 0, false⟩, none) else none
  else time? (s.drop (first s).utf8Size)

/-- Whether an offset is at least a day long. -/
def isTooLong (offset : Int × Int) : Bool :=
  offset.1 ≠ 0 && 86400000000 ≤ (offset.1 * 1000000 + offset.2).natAbs

/-- The clock time of a reading. -/
def clock (r : Reading) : Except CalendarFault Clock :=
  let hour := r.fields.getD 0 0
  let minute := r.fields.getD 1 0
  let second := r.fields.getD 2 0
  if h : hour < 24 then
    if m : minute < 60 then
      if s : second < 60 then
        .ok ⟨⟨hour, h⟩, ⟨minute, m⟩, ⟨second, s⟩,
          ⟨r.microsecond % 1000000, Nat.mod_lt _ (by decide)⟩⟩
      else .error .secondRange
    else .error .minuteRange
  else .error .hourRange

/-- The date of a year, a month and a day. -/
def date (year : Int) (month day : Nat) : Except CalendarFault Date :=
  if h : IsDate year.toNat month day then .ok ⟨year.toNat, month, day, h⟩
  else if year < 1 ∨ 9999 < year then .error (.yearRange year)
  else if month < 1 ∨ 12 < month then .error .monthRange
  else .error .dayRange

/-- The date, the time and the offset that a text denotes. -/
def read (text : String) : Except CalendarFault OffsetDateTime :=
  let s := bytes text
  let parts := do
    if s.length < 7 then none
    let n ← dateLength? s
    let d ← date? (s.take n)
    let t ← timeAfter? (s.drop n)
    return (d, t)
  match parts with
  | none => .error (.notIso text)
  | some ((year, month, day), r, offset) =>
    match offset.filter isTooLong with
    | some (seconds, microseconds) => .error (.offsetRange seconds microseconds)
    | none =>
      match date year month day with
      | .error e => .error e
      | .ok d => (clock r).map fun c => ⟨⟨d, c⟩, offset⟩

end Iso
end Phrasebook
