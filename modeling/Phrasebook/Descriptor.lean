/-
# Arguments of a template

A template refers to an argument wherever it inserts one, at the top or inside a plural
form, and wherever a plural block is driven by one. The references to one key are gathered
into one descriptor (`ArgumentDescriptor`, `_DescriptorTable.add`): the last type and the
last chain of formatters that were written count, each for itself; an argument drives a
plural or is optional if one of its references says so.

Descriptors are listed with the positions first, in increasing order, and then the names
in the order in which they are first met. The block of a plural comes before the
arguments inside its forms.
-/

import Phrasebook.OrderedMap
import Phrasebook.Template.Key

namespace Phrasebook

/-- A place where a template refers to an argument. -/
structure Reference where
  key : ArgumentKey
  typeTag : Option String := none
  formatters : List String := []
  pluralized : Bool := false
  optional : Bool := false
  deriving DecidableEq

namespace Reference

/-- A text that counts only if it is not empty. -/
def nonempty? : Option String → Option String
  | some s => if s = "" then none else some s
  | none => none

/-- The reference that an argument placeholder makes. -/
def ofArgument (a : Argument) : Reference where
  key := a.key
  typeTag := nonempty? a.typeTag
  formatters := a.formatters
  optional := a.optional

/-- The references that an element of a plural form makes. -/
def ofElement : FormElement → List Reference
  | .text _ => []
  | .argument a => [ofArgument a]
  | .value => []

/-- The references that a part of a template makes. -/
def ofPart : Part → List Reference
  | .text _ => []
  | .argument a => [ofArgument a]
  | .plural b =>
    { key := b.key, pluralized := true } :: b.forms.flatMap fun f => f.elements.flatMap ofElement

end Reference

/-- The references of a template in the order of its source text (`_iter_arguments`). -/
def Template.references (t : Template) : List Reference := t.flatMap Reference.ofPart

/-- What is known about one argument of a template (`ArgumentDescriptor`). The order is the rank of
its first reference among the arguments of the template. -/
structure Descriptor where
  key : ArgumentKey
  typeTag : Option String
  formatters : List String
  order : Nat
  pluralized : Bool
  optional : Bool
  deriving DecidableEq

namespace Descriptor

/-- The descriptor of an argument that is met for the first time. -/
def ofReference (order : Nat) (r : Reference) : Descriptor where
  key := r.key
  typeTag := r.typeTag
  formatters := r.formatters
  order
  pluralized := r.pluralized
  optional := r.optional

/-- A descriptor with what one more reference says. -/
def absorb (d : Descriptor) (r : Reference) : Descriptor where
  key := d.key
  typeTag := r.typeTag <|> d.typeTag
  formatters := if r.formatters = [] then d.formatters else r.formatters
  order := d.order
  pluralized := d.pluralized || r.pluralized
  optional := d.optional || r.optional

/-- The key as it is written in templates (`ArgumentDescriptor.name`). -/
def name (d : Descriptor) : String := d.key.text

/-- The declared type; without one, an argument that drives a plural is a number
(`ArgumentDescriptor.resolved_type`). -/
def resolvedType (d : Descriptor) : String :=
  match Reference.nonempty? d.typeTag with
  | some tag => tag
  | none => if d.pluralized then "number" else "unknown"

/-- The descriptors with one more reference taken in (`_DescriptorTable.add`). -/
def collect (known : OrderedMap ArgumentKey Descriptor) (r : Reference) :
    OrderedMap ArgumentKey Descriptor :=
  known.insert r.key <|
    match known.get? r.key with
    | some d => d.absorb r
    | none => ofReference known.size r

/-- The descriptors of all references, in the order of first references. -/
def ofReferences (rs : List Reference) : OrderedMap ArgumentKey Descriptor :=
  rs.foldl collect .empty

/-- Whether one descriptor is listed before another among the positions. -/
def positionLe (d e : Descriptor) : Bool :=
  match d.key, e.key with
  | .positional i, .positional j => i ≤ j
  | _, _ => true

/-- The positions in increasing order, and then the names (`_DescriptorTable.descriptors`). -/
def arranged (ds : List Descriptor) : List Descriptor :=
  (ds.filter (·.key.isPositional)).mergeSort positionLe ++ ds.filter (!·.key.isPositional)

end Descriptor

/-- The descriptors of a template (`extract_arguments`). -/
def Template.descriptors (t : Template) : List Descriptor :=
  Descriptor.arranged (Descriptor.ofReferences t.references).values

end Phrasebook
