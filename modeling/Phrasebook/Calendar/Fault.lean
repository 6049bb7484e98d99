/-
# Faults of dates and times

What can be wrong with a text that should hold a date and a time: its form, or the numbers in it.
These are the errors of `datetime.fromisoformat`.
-/

import Phrasebook.Text.Digit
import Phrasebook.Text.Quoted

namespace Phrasebook

/-- Why a text holds no date and time. -/
inductive CalendarFault where
  | notIso (text : String)
  | yearRange (year : Int)
  | monthRange
  | dayRange
  | hourRange
  | minuteRange
  | secondRange
  | offsetRange (seconds microseconds : Int)
  deriving DecidableEq

namespace CalendarFault

/-- A part of a time span, if it is not zero. -/
def spanPart (name : String) (n : Int) : List String :=
  if n = 0 then [] else [name ++ "=" ++ String.ofList (Text.signedNumeral n)]

/-- A time span in whole days, and a rest of seconds and microseconds that is not negative. -/
def span (seconds microseconds : Int) : String :=
  let total := seconds * 1000000 + microseconds
  let days := total.fdiv 86400000000
  let rest := total.fmod 86400000000
  "datetime.timedelta(" ++ ", ".intercalate (spanPart "days" days ++
    spanPart "seconds" (rest / 1000000) ++ spanPart "microseconds" (rest % 1000000)) ++ ")"

/-- What is reported. -/
def message : CalendarFault → String
  | notIso text => "Invalid isoformat string: " ++ Text.quotedString text
  | yearRange year => "year " ++ String.ofList (Text.signedNumeral year) ++ " is out of range"
  | monthRange => "month must be in 1..12"
  | dayRange => "day is out of range for month"
  | hourRange => "hour must be in 0..23"
  | minuteRange => "minute must be in 0..59"
  | secondRange => "second must be in 0..59"
  | offsetRange seconds microseconds =>
    "offset must be a timedelta strictly between -timedelta(hours=24) and " ++
      "timedelta(hours=24), not " ++ span seconds microseconds ++ "."

end CalendarFault

end Phrasebook
