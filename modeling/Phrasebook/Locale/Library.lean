/-
# The locale library

What is known of languages comes from a locale library. It finds the locale that a code means, or
says that the code is malformed or that the locale is unknown, and a locale tells the plural
category of a number and writes numbers, dates and times (`Locale`, `LocaleLibrary`). What it
answers is left open here: all that is relied on is that the default locale is there.

Codes are handed over with underscores in place of hyphens (`normalize_locale`), and the library is
asked for them (`get_babel_locale`). Formatters fall back to the default locale (`_resolve_locale`).
-/

import Phrasebook.Calendar.Iso
import Phrasebook.Fault

namespace Phrasebook

/-- Why a code names no locale: there is no such locale (`UnknownLocaleError`), or the code is not
one (`ValueError`). -/
inductive LocaleFault where
  | unknown (message : String)
  | malformed (message : String)
  deriving DecidableEq

/-- What is reported. -/
def LocaleFault.message : LocaleFault → String
  | unknown message => message
  | malformed message => message

/-- What is handed over to be written as a date or a time: what a text in ISO form denotes, or any
other value as it is. -/
inductive Temporal where
  | read (m : OffsetDateTime)
  | value (v : Value)

/-- A locale of the library. -/
structure Locale where
  /-- The identifier of the locale in its usual spelling. -/
  identifier : String
  /-- The plural category of a number (`Locale.plural_form`). -/
  pluralForm : Number → Except Fault String
  /-- A number in the form of a pattern or as is usual (`format_decimal`). -/
  formatDecimal : Option String → Number → Except Fault String
  /-- A date in a style or in the form of a pattern (`format_date`). -/
  formatDate : String → Temporal → Except Fault String
  /-- A time in a style or in the form of a pattern (`format_time`). -/
  formatTime : String → Temporal → Except Fault String

namespace Locale

/-- The code of the locale for formatters that are not given one (`DEFAULT_LOCALE`). -/
def defaultCode : String := "en"

/-- A code with underscores between its parts (`normalize_locale`). -/
def normalize (code : String) : String :=
  String.ofList (code.toList.map fun c => if c = '-' then '_' else c)

/-- A locale that writes nothing, where all numbers have the same category. -/
def mute (identifier : String) : Locale where
  identifier
  pluralForm _ := .ok "other"
  formatDecimal _ _ := .error (.raised "NotImplementedError" "" false)
  formatDate _ _ := .error (.raised "NotImplementedError" "" false)
  formatTime _ _ := .error (.raised "NotImplementedError" "" false)

end Locale

/-- A locale library, which has the default locale at least. -/
structure LocaleLibrary where
  /-- The locale of an identifier with underscores (`Locale.parse`). -/
  parse : String → Except LocaleFault Locale
  default : Locale
  parse_default : parse (Locale.normalize Locale.defaultCode) = .ok default

namespace LocaleLibrary

/-- The locale that a code means (`get_babel_locale`). -/
def find (library : LocaleLibrary) (code : String) : Except LocaleFault Locale :=
  library.parse (Locale.normalize code)

/-- The locale that a code means, or the default one (`_resolve_locale`). -/
def findOrDefault (library : LocaleLibrary) (code : String) : Locale :=
  match library.find code with
  | .ok locale => locale
  | .error _ => library.default

/-- The library that knows a locale by the default code, and no other code. -/
def single (locale : Locale) : LocaleLibrary where
  parse identifier :=
    if identifier = Locale.normalize Locale.defaultCode then .ok locale
    else .error (.unknown ("unknown locale " ++ Text.quotedString identifier))
  default := locale
  parse_default := if_pos rfl

/-- The library with a single locale finds no other code. -/
theorem find_single_of_ne {locale : Locale} {code : String}
    (h : Locale.normalize code ≠ Locale.normalize Locale.defaultCode) :
    (single locale).find code =
      .error (.unknown ("unknown locale " ++ Text.quotedString (Locale.normalize code))) :=
  if_neg h

/-- The library that knows the default locale, of which there is nothing to write. -/
def lone : LocaleLibrary := single (.mute Locale.defaultCode)

end LocaleLibrary
end Phrasebook
