/-
# Argument keys

A key is written as the decimal numeral of its position or as its name. Read back from a
template (`parse_identity`), a run of ASCII digits is a position and an identifier is a
name; a position may be written with at most 4300 digits, leading zeros counted.

A key that an application builds itself may have any text as its name, so two keys
can be written alike.
-/

import Phrasebook.Template.Basic
import Phrasebook.Text.Blank
import Phrasebook.Text.Digit
import Phrasebook.Text.Quoted

namespace Phrasebook

/-- Why a text cannot be read as a template. -/
inductive ParseError where
  | indexTooLong (digits : Nat)
  deriving DecidableEq

/-- What is reported for a text that cannot be read. -/
def ParseError.message : ParseError → String
  | .indexTooLong digits =>
    "Exceeds the limit (4300 digits) for integer string conversion: value has " ++
      String.ofList (Text.numeral digits) ++
      " digits; use sys.set_int_max_str_digits() to increase the limit"

/-- Why a part of a template cannot be built from given data. -/
inductive BuildError where
  | negativeIndex (index : Int)
  | unknownCategory (name : String)
  deriving DecidableEq

/-- What is reported for a part that cannot be built. -/
def BuildError.message : BuildError → String
  | .negativeIndex index =>
    "Positional index must be >= 0, got " ++ String.ofList (Text.signedNumeral index)
  | .unknownCategory name => Text.quotedString name ++ " is not a valid PluralCategory"

/-- The category with the given name, for parts that an application builds. -/
def PluralCategory.ofName (name : String) : Except BuildError PluralCategory :=
  match ofName? name with
  | some c => .ok c
  | none => .error (.unknownCategory name)

namespace ArgumentKey

/-- The largest number of digits that a position may be written with. -/
def maxIndexDigits : Nat := 4300

/-- The key of a position that an application gives as an integer
(`PositionalKey.__post_init__`). -/
def ofIndex : Int → Except BuildError ArgumentKey
  | .ofNat n => .ok (.positional n)
  | .negSucc n => .error (.negativeIndex (.negSucc n))

/-- The characters of a key as it is written in templates. -/
def chars : ArgumentKey → List Char
  | .positional index => Text.numeral index
  | .named name => name.toList

/-- A key as it is written in templates. -/
def text (k : ArgumentKey) : String := String.ofList k.chars

/-- Whether a key is a position. -/
def isPositional : ArgumentKey → Bool
  | .positional _ => true
  | .named _ => false

/-- The position that a key stands for. -/
def index? : ArgumentKey → Option Nat
  | .positional index => some index
  | .named _ => none

/-- The name that a key stands for. -/
def name? : ArgumentKey → Option String
  | .positional _ => none
  | .named name => some name

/-- Whether a name may start with the character. -/
def isNameStart (c : Char) : Bool := c.isAlpha || c == '_'

/-- Whether a name may go on with the character. -/
def isNameChar (c : Char) : Bool := c.isAlphanum || c == '_'

/-- Whether a text is an identifier: an ASCII letter or an underscore, and then ASCII letters,
digits and underscores (`is_identifier`). -/
def isIdentifier : List Char → Bool
  | [] => false
  | c :: s => isNameStart c && s.all isNameChar

/-- The key that a text without surrounding blanks and without a mark denotes. -/
def read (s : List Char) : Except ParseError (Option ArgumentKey) :=
  if s = [] then .ok none
  else if s.all Text.isAsciiDigit then
    if s.length ≤ maxIndexDigits then .ok (some (.positional (Text.asciiValue s)))
    else .error (.indexTooLong s.length)
  else if isIdentifier s then .ok (some (.named (String.ofList s)))
  else .ok none

/-- The key that a text denotes, and whether a question mark marks it as optional
(`parse_identity`). Blanks around the key and before the mark do not count. -/
def readMarked (s : List Char) : Except ParseError (Option (ArgumentKey × Bool)) :=
  let t := Text.trim s
  let optional := t.getLast? == some '?'
  let name := if optional then Text.trimRight t.dropLast else t
  (read name).map (·.map (·, optional))

/-- An empty text denotes no key. -/
@[simp] theorem read_nil : read [] = .ok none := rfl

end ArgumentKey

end Phrasebook
