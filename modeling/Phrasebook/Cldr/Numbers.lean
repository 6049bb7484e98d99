/-
# Numbers in locales

How numbers are written in a locale. A locale without data of its own has those of its
language, and a language without data has those of English.
-/

import Phrasebook.Cldr.Known
import Phrasebook.Cldr.NumberPattern

namespace Phrasebook
namespace Cldr

/-- How numbers are written. -/
structure NumberStyle where
  pattern : String
  symbols : NumberSymbols
  deriving DecidableEq

namespace NumberStyle

/-- How numbers are written in English. -/
def english : NumberStyle := ⟨"#,##0.###", ⟨".", ","⟩⟩

/-- How numbers are written, by locale. -/
def table : List (String × NumberStyle) := [
    ("ar", ⟨"#,##0.###", ⟨".", ","⟩⟩),
    ("de", ⟨"#,##0.###", ⟨",", "."⟩⟩),
    ("de_CH", ⟨"#,##0.###", ⟨".", "\u2019"⟩⟩),
    ("en", ⟨"#,##0.###", ⟨".", ","⟩⟩),
    ("es", ⟨"#,##0.###", ⟨",", "."⟩⟩),
    ("fr", ⟨"#,##0.###", ⟨",", "\u202f"⟩⟩),
    ("hi", ⟨"#,##,##0.###", ⟨".", ","⟩⟩),
    ("ja", ⟨"#,##0.###", ⟨".", ","⟩⟩),
    ("lv", ⟨"#,##0.###", ⟨",", "\u00a0"⟩⟩),
    ("pl", ⟨"#,##0.###", ⟨",", "\u00a0"⟩⟩),
    ("pt_BR", ⟨"#,##0.###", ⟨",", "."⟩⟩)]

/-- How numbers are written in a locale. -/
def ofLocale (id : LocaleId) : NumberStyle := (id.lineage.findSome? (table.lookup ·)).getD english

end NumberStyle
end Cldr
end Phrasebook
