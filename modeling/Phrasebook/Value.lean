/-
# Values

The values that callers pass and formatters answer: nothing, truth values, numbers, texts,
dates, times, dates with a time, and lists of values.

Every value has a text, which is what a template shows (`_to_text`). An element of a list is
shown so that its kind can be told: texts between quotes, decimals and dates with their kind
in front. Integers of more than 4300 digits have no text.
-/

import Phrasebook.Calendar.Date
import Phrasebook.Number.Basic
import Phrasebook.Text.Quoted

namespace Phrasebook

/-- A value. -/
inductive Value where
  | none
  | bool (b : Bool)
  | number (n : Number)
  | text (s : String)
  | date (d : Date)
  | time (c : Clock)
  | datetime (m : DateTime)
  | list (vs : List Value)

/-- The kinds of value. -/
inductive ValueKind where
  | none
  | bool
  | int
  | float
  | decimal
  | text
  | date
  | time
  | datetime
  | list
  | mapping
  deriving DecidableEq

/-- The word for a kind of value in messages. -/
def ValueKind.word : ValueKind → String
  | none => "NoneType"
  | bool => "bool"
  | int => "int"
  | float => "float"
  | decimal => "Decimal"
  | text => "str"
  | date => "date"
  | time => "time"
  | datetime => "datetime"
  | list => "list"
  | mapping => "dict"

/-- The kind of a number. -/
def Number.kind : Number → ValueKind
  | int _ => .int
  | float _ => .float
  | decimal _ => .decimal

/-- A date as year, month and day with hyphens. -/
def Date.chars (d : Date) : List Char :=
  Text.padded 4 d.year ++ '-' :: Text.padded 2 d.month ++ '-' :: Text.padded 2 d.day

/-- A time of the day with colons; microseconds only if there are some. -/
def Clock.chars (c : Clock) : List Char :=
  Text.padded 2 c.hour ++ ':' :: Text.padded 2 c.minute ++ ':' :: Text.padded 2 c.second ++
    if c.microsecond.val = 0 then [] else '.' :: Text.padded 6 c.microsecond

/-- A date and a time of the day with a space in between. -/
def DateTime.chars (m : DateTime) : List Char := m.date.chars ++ ' ' :: m.clock.chars

/-- The numbers of a date. -/
def Date.fields (d : Date) : List Nat := [d.year, d.month, d.day]

/-- The numbers of a time of the day, without seconds and microseconds that are zero at the end. -/
def Clock.fields (c : Clock) : List Nat :=
  [c.hour.val, c.minute.val] ++
    if c.microsecond.val ≠ 0 then [c.second.val, c.microsecond.val]
    else if c.second.val ≠ 0 then [c.second.val]
    else []

namespace Value

/-- The kind of a value. -/
def kind : Value → ValueKind
  | none => .none
  | bool _ => .bool
  | number n => n.kind
  | text _ => .text
  | date _ => .date
  | time _ => .time
  | datetime _ => .datetime
  | list _ => .list

/-- The number that a value is, where true counts as one and false as zero. -/
def number? : Value → Option Number
  | bool b => some (.int (if b then 1 else 0))
  | number n => some n
  | _ => Option.none

/-- The word for a truth value. -/
def boolWord (b : Bool) : String := if b then "True" else "False"

/-- A kind with numbers in parentheses. -/
def call (name : String) (fields : List Nat) : String :=
  name ++ "(" ++ ", ".intercalate (fields.map fun n => String.ofList (Text.numeral n)) ++ ")"

mutual

/-- A value as an element of a list. -/
def shown : Value → Except NumberFault String
  | none => .ok "None"
  | bool b => .ok (boolWord b)
  | number (.int n) => Number.numeral n
  | number (.float x) => .ok x.text
  | number (.decimal d) => .ok ("Decimal('" ++ d.text ++ "')")
  | text s => .ok (Text.quotedString s)
  | date d => .ok (call "datetime.date" d.fields)
  | time c => .ok (call "datetime.time" c.fields)
  | datetime m => .ok (call "datetime.datetime" (m.date.fields ++ m.clock.fields))
  | list vs => (shownAll vs).map fun ss => "[" ++ ", ".intercalate ss ++ "]"

/-- The elements of a list. -/
def shownAll : List Value → Except NumberFault (List String)
  | [] => .ok []
  | v :: vs => (shown v).bind fun s => (shownAll vs).map (s :: ·)

end

/-- The text of a value. -/
def toText : Value → Except NumberFault String
  | none => .ok "None"
  | bool b => .ok (boolWord b)
  | number n => n.text
  | text s => .ok s
  | date d => .ok (String.ofList d.chars)
  | time c => .ok (String.ofList c.chars)
  | datetime m => .ok (String.ofList m.chars)
  | list vs => (list vs).shown

/-- The text of a value in a rendered template, where nothing is left blank (`_to_text`). -/
def rendered : Value → Except NumberFault String
  | none => .ok ""
  | v => v.toText

end Value

end Phrasebook
