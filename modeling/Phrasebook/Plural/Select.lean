/-
# The plural category of a number

The category that a number has in a locale, as `select_plural_category` tells it. The library is
asked for it. Where it does not find the locale, numbers of the absolute value one are singular and
all others are not.
-/

import Phrasebook.Locale.Library
import Phrasebook.Number.Decimal.Context

namespace Phrasebook
namespace Number

/-- Whether the absolute value is one. Decimals are rounded to the precision. -/
def isUnit : Number → Except NumberFault Bool
  | int n => .ok (n.natAbs == 1)
  | float (.finite _ rank) => .ok ((float (.finite false rank)).same (int 1))
  | float (.infinite _) => .ok false
  | float .nan => .ok false
  | decimal d => d.abs.map fun a => (decimal a).same (int 1)

/-- The plural category in the locale that a code means (`select_plural_category`). -/
def pluralCategory (library : LocaleLibrary) (code : String) (n : Number) : Except Fault String :=
  match library.find code with
  | .ok locale => locale.pluralForm n
  | .error _ =>
    match n.isUnit with
    | .ok unit => .ok (if unit then "one" else "other")
    | .error e => .error (.number e)

end Number
end Phrasebook
