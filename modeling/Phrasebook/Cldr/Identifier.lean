/-
# Locale identifiers

A locale identifier is a language, and then perhaps a script, a territory and a variant,
with underscores in between, and perhaps a modifier after an at sign. What stands
between a point and the modifier names a character set and does not count. Letter case does not
count in any part but the modifier.

A script has four letters, a territory two letters or three digits, and a variant has at
least five characters and starts with a letter, or has four and starts with a digit.
-/

import Phrasebook.Cldr.Letter
import Phrasebook.Locale.Library
import Phrasebook.Text.Case
import Phrasebook.Text.Pieces

namespace Phrasebook
namespace Cldr

/-- The parts of a locale identifier. -/
structure LocaleId where
  language : String
  script : Option String := none
  territory : Option String := none
  variant : Option String := none
  modifier : Option String := none
  deriving DecidableEq

namespace LocaleId

/-- The parts that are there, without the modifier. -/
def parts (id : LocaleId) : List String :=
  id.language :: [id.script, id.territory, id.variant].filterMap (·)

/-- An identifier in its usual spelling. -/
def text (id : LocaleId) : String :=
  "_".intercalate id.parts ++ (id.modifier.map ("@" ++ ·)).getD ""

/-- The texts of an identifier without its modifier and of what is left when the last part is left
out again and again, the longest first. -/
def lineage (id : LocaleId) : List String :=
  (List.range id.parts.length).map fun k => "_".intercalate (id.parts.take (id.parts.length - k))

/-- The identifier without the modifier. -/
def plain (id : LocaleId) : LocaleId := { id with modifier := none }

/-- A first letter as a capital, the others small. -/
def capitalized (s : List Char) : List Char := Text.upper (s.take 1) ++ Text.lower (s.drop 1)

/-- The script that the parts start with, in its usual spelling, and the other parts. -/
def takeScript : List (List Char) → Option (List Char) × List (List Char)
  | [] => (none, [])
  | p :: ps =>
    if p.length = 4 ∧ p.all isLetter then (some (capitalized p), ps) else (none, p :: ps)

/-- The territory that the parts start with, in its usual spelling, and the other parts. -/
def takeTerritory : List (List Char) → Option (List Char) × List (List Char)
  | [] => (none, [])
  | p :: ps =>
    if p.length = 2 ∧ p.all isLetter then (some (Text.upper p), ps)
    else if p.length = 3 ∧ p.all (Text.digit? · |>.isSome) then (some p, ps)
    else (none, p :: ps)

/-- Whether a part may be a variant. -/
def isVariant : List Char → Bool
  | [] => false
  | c :: p => (p.length == 3 && (Text.digit? c).isSome) || (4 ≤ p.length && isLetter c)

/-- The variant that the last parts make up, if they are no more than a variant. -/
def takeVariant? : List (List Char) → Option (Option (List Char))
  | [] => some none
  | [p] => if isVariant p then some (some (Text.upper p)) else none
  | _ => none

/-- What is reported of an empty identifier. -/
def emptyMessage : String :=
  "Empty locale identifier value: ''\n\nIf you didn't explicitly pass an empty value to a " ++
    "Babel function, this could be caused by there being no suitable locale environment " ++
    "variables for the API you tried to use."

/-- The parts of an identifier that has underscores between them. -/
def read (identifier : String) : Except LocaleFault LocaleId :=
  if identifier.isEmpty then .error (.malformed emptyMessage)
  else
    let (front, modifier) := Text.cut '@' identifier.toList
    let front := (Text.cut '.' front).1
    let (language, rest) := Text.cut '_' front
    let language := Text.lower language
    if language = [] ∨ !language.all isLetter then
      .error (.malformed
        ("expected only letters, got " ++ Text.quotedString (String.ofList language)))
    else
      let (script, rest) := takeScript ((rest.map (Text.pieces '_')).getD [])
      let (territory, rest) := takeTerritory rest
      match takeVariant? rest with
      | none =>
        .error (.malformed
          (Text.quotedString (String.ofList front) ++ " is not a valid locale identifier"))
      | some variant =>
        .ok {
          language := String.ofList language
          script := script.map String.ofList
          territory := territory.map String.ofList
          variant := variant.map String.ofList
          modifier := (modifier.filter (· ≠ [])).map String.ofList }

/-- Letter case and the character set do not count. -/
example : (read "DE_at.UTF-8@euro").toOption.map text = some "de_AT@euro" := by
  decide +kernel

end LocaleId

end Cldr
end Phrasebook
