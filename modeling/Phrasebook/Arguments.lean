/-
# Arguments

The values for a template (`TemplateArgs`) come as a sequence, or as a mapping from names
and integers to values. In a mapping a position is looked for as an integer first and then
as the numeral of that integer, so that an integer and its numeral are different keys. A
bare text is no source of values. What is missing is nothing (`_lookup`).
-/

import Phrasebook.OrderedMap
import Phrasebook.Template.Key
import Phrasebook.Value

namespace Phrasebook

/-- A key of a mapping. -/
inductive MappingKey where
  | index (n : Int)
  | name (s : String)
  deriving DecidableEq

/-- The values for a template (`TemplateArgs`). -/
inductive Arguments where
  | sequence (vs : List Value)
  | mapping (m : OrderedMap MappingKey Value)
  | bare

namespace Arguments

/-- No values at all. -/
def empty : Arguments := sequence []

/-- The values of names. -/
def ofNames (values : OrderedMap String Value) : Arguments :=
  mapping (OrderedMap.ofList (values.entries.map fun e => (.name e.1, e.2)))

/-- The value of a key. -/
def find? (args : Arguments) (k : ArgumentKey) : Option Value :=
  match args, k with
  | sequence vs, .positional i => vs[i]?
  | sequence _, .named _ => none
  | mapping m, .positional i => (m.get? (.index i)).or (m.get? (.name k.text))
  | mapping m, .named s => m.get? (.name s)
  | bare, _ => none

/-- The value of a key, nothing if there is none (`_lookup`). -/
def lookup (args : Arguments) (k : ArgumentKey) : Value := (args.find? k).getD .none

end Arguments

end Phrasebook
