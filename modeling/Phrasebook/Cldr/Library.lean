/-
# The locales of the common repository

A locale library for the locales of the tables beside this module: what is said there of plurals, of
numbers and of dates and times, by the identifier of the locale. The tables have a part of all
locales, and a code that they do not have is unknown to this library. It is what a program is run
with; nothing that is proved depends on it.
-/

import Phrasebook.Cldr.Calendars
import Phrasebook.Cldr.Numbers
import Phrasebook.Cldr.PluralRules
import Phrasebook.Cldr.Stamp
import Phrasebook.Plural.Select

namespace Phrasebook
namespace Cldr

/-- The plural category of a number in a locale. -/
def pluralForm (id : LocaleId) (n : Number) : Except Fault String := do
  let q ← Quantity.ofNumber n
  let c ← ((PluralRule.ofLocale id).category q).mapError .number
  return c.name

/-- A number in the form of a pattern, or in the form that is usual in a locale. -/
def formatDecimal (id : LocaleId) (pattern : Option String) (n : Number) : Except Fault String :=
  let style := NumberStyle.ofLocale id
  ((NumberPattern.read (pattern.getD style.pattern)).showNumber style.symbols n).mapError .number

/-- What is written of a date; nothing if there is neither a date nor a time. -/
def dateMoment? : Temporal → Option Moment
  | .read m => some ⟨some m.moment.date, none⟩
  | .value (.date d) => some ⟨some d, none⟩
  | .value (.datetime m) => some ⟨some m.date, none⟩
  | .value (.time c) => some ⟨none, some c⟩
  | .value _ => none

/-- The time that is written. -/
def timeOf : Temporal → Except Fault Clock
  | .read m => .ok m.moment.clock
  | .value (.time c) => .ok c
  | .value (.datetime m) => .ok m.clock
  | .value (.bool b) => Stamp.clock (if b then 1 else 0) 0
  | .value (.number (.int n)) => Stamp.clock n 0
  | .value (.number (.float x)) => Stamp.ofBinary x
  | .value _ => .error DatePattern.missingField

/-- The pattern that a text stands for: that of a style, or the text itself. -/
def patternOf (ofStyle : CalendarLength → String) (format : String) : String :=
  ((CalendarLength.ofName? format).map ofStyle).getD format

/-- A date in a style or in the form of a pattern. -/
def formatDate (id : LocaleId) (format : String) (t : Temporal) : Except Fault String := do
  let style := CalendarStyle.ofLocale id
  let pieces ← DatePattern.read (patternOf style.datePattern format)
  match dateMoment? t with
  | some m => return String.ofList (← DatePattern.showAll style.names m pieces)
  | none => .error (.raised "AssertionError" "" false)

/-- A time in a style or in the form of a pattern. -/
def formatTime (id : LocaleId) (format : String) (t : Temporal) : Except Fault String := do
  let style := CalendarStyle.ofLocale id
  let clock ← timeOf t
  let pieces ← DatePattern.read (patternOf style.timePattern format)
  return String.ofList (← DatePattern.showAll style.names ⟨none, some clock⟩ pieces)

/-- The locale of an identifier. -/
def locale (id : LocaleId) : Locale where
  identifier := id.text
  pluralForm := pluralForm id
  formatDecimal := formatDecimal id
  formatDate := formatDate id
  formatTime := formatTime id

/-- English. -/
def english : LocaleId := { language := "en" }

/-- English is known, so the library has a default locale. -/
theorem parse_english :
    LocaleId.parse (Locale.normalize Locale.defaultCode) = .ok english := by
  have h : (LocaleId.parse (Locale.normalize Locale.defaultCode)).toOption = some english := by
    decide +kernel
  generalize LocaleId.parse (Locale.normalize Locale.defaultCode) = parsed at h ⊢
  cases parsed with
  | ok id => exact congrArg Except.ok (Option.some.inj h)
  | error f => cases h

/-- The locale library of the tables. -/
def library : LocaleLibrary where
  parse identifier := (LocaleId.parse identifier).map locale
  default := locale english
  parse_default := by rw [parse_english]; rfl

/-- A digit after the point makes a plural where the locale is known, and no difference where it
is not. -/
example : ((Number.int 22).pluralCategory library "pl").toOption = some "few" ∧
    ((Number.decimal (.finite false 10 (-1))).pluralCategory library "en").toOption =
      some "other" ∧
    ((Number.decimal (.finite false 10 (-1))).pluralCategory library "?").toOption =
      some "one" := by
  decide +kernel

end Cldr
end Phrasebook
