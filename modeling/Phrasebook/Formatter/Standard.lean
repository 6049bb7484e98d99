/-
# Standard formatters

Formatters that are of use in most templates: letter case, leaving a value out,
exchanging a text, and numbers, dates and times as the locale library writes them. Where
the locale is not known they are written as in the default locale.

Dates and times that come as texts are read in ISO form before they are handed over. The names are
those of `create_default_registry`.
-/

import Phrasebook.Locale.Library
import Phrasebook.Formatter.Registry
import Phrasebook.Text.Case
import Phrasebook.Text.Pieces

namespace Phrasebook
namespace Formatter

/-- A formatter that works on the text of a value. -/
def onText (f : String → String) : Formatter := fun v =>
  match v.toText with
  | .ok s => .ok (.text (f s))
  | .error e => .error (.number e)

/-- The upper case of the text of a value. -/
def uppercase : Formatter := onText Text.uppercased

/-- The lower case of the text of a value. -/
def lowercase : Formatter := onText Text.lowercased

/-- The value itself. -/
def identity : Formatter := .ok

/-- An empty text. -/
def ignore : Formatter := fun _ => .ok (.text "")

/-- The text of a value with every occurrence of a text exchanged for another
(`replace_formatter`). -/
def replace (search replacement : String) : Formatter :=
  onText fun s => String.ofList (Text.replace search.toList replacement.toList s.toList)

/-- A number as it is written in a locale, or in the form of a pattern (`number_formatter`). -/
def number (library : LocaleLibrary) (code : String) (pattern : Option String) : Formatter
  | .number n => ((library.findOrDefault code).formatDecimal pattern n).map .text
  | v => .error (.notNumber v.kind)

/-- What a value is handed over as to be written as a date or a time (`_as_datetime`). -/
def temporal : Value → Except Fault Temporal
  | .text s =>
    match Iso.read s with
    | .ok m => .ok (.read m)
    | .error e => .error (.calendar e)
  | v => .ok (.value v)

/-- A date as it is written in a locale, in a style or in the form of a pattern
(`date_formatter`). -/
def date (library : LocaleLibrary) (code style : String) (pattern : Option String) : Formatter :=
  fun v => do
    let t ← temporal v
    let s ← (library.findOrDefault code).formatDate (pattern.getD style) t
    return .text s

/-- A time as it is written in a locale, in a style or in the form of a pattern
(`time_formatter`). -/
def time (library : LocaleLibrary) (code style : String) (pattern : Option String) : Formatter :=
  fun v => do
    let t ← temporal v
    let s ← (library.findOrDefault code).formatTime (pattern.getD style) t
    return .text s

/-- The style of dates if none is given. -/
def defaultDateStyle : String := "medium"

/-- The style of times if none is given. -/
def defaultTimeStyle : String := "short"

/-- The standard formatters for a locale, by name. -/
def standard (library : LocaleLibrary) (code : String) : List (String × Formatter) :=
  [("uppercase", uppercase), ("lowercase", lowercase), ("identity", identity), ("ignore", ignore),
    ("number", number library code none), ("date", date library code defaultDateStyle none),
    ("time", time library code defaultTimeStyle none)]

end Formatter

/-- The registry of the standard formatters for a locale (`create_default_registry`). -/
def Registry.standard (library : LocaleLibrary) (code : String) : Registry :=
  ⟨OrderedMap.ofList (Formatter.standard library code)⟩

end Phrasebook
