/-
# Introspection

An introspection (`TemplateIntrospection`) is all that can be said about a template without
rendering it: its parts, the descriptors of its arguments, and the diagnostics on their
numbering.

The arguments of a template should be all positions or all names, and the positions
should be numbered from zero without a gap. Of the two problems only the first one that
is found is reported, in two diagnostics (`_check_numbering`).
-/

import Phrasebook.Descriptor
import Phrasebook.Diagnostic.Basic
import Phrasebook.Template.Reader

namespace Phrasebook

/-- The least number that is not in the list. -/
def leastMissing (ns : List Nat) : Nat :=
  ((List.range (ns.length + 1)).find? (!ns.contains ·)).getD ns.length

/-- The diagnostics on the numbering of the arguments of a template (`_check_numbering`). -/
def Descriptor.diagnostics (ds : List Descriptor) (templateId : String) : List Diagnostic :=
  let indices := ds.filterMap (·.key.index?)
  let names := ds.filterMap (·.key.name?)
  let expected := leastMissing indices
  match indices, names with
  | _ :: _, name :: _ =>
    [.argumentExpected .mixedArgumentKinds expected name templateId,
      .mixedArgumentKinds templateId]
  | _, _ =>
    match (indices.filter (expected < ·)).min? with
    | some found =>
      [.argumentExpected .nonContiguousIndex expected (ArgumentKey.positional found).text
        templateId,
        .skippedIndex templateId]
    | none => []

/-- What can be said about a template without rendering it (`TemplateIntrospection`). -/
structure Introspection where
  templateId : String
  parts : Template
  arguments : List Descriptor
  diagnostics : List Diagnostic
  deriving DecidableEq

namespace Introspection

/-- The introspection of a template that has been read. -/
def ofParts (templateId : String) (parts : Template) : Introspection where
  templateId
  parts
  arguments := parts.descriptors
  diagnostics := Descriptor.diagnostics parts.descriptors templateId

/-- The introspection of a source text (`introspect_template`). -/
def ofSource (templateId source : String) : Except ParseError Introspection :=
  (Template.parse source).map (ofParts templateId)

/-- Whether there is nothing to complain about (`TemplateIntrospection.is_consistent`). -/
def isConsistent (i : Introspection) : Bool := i.diagnostics.isEmpty

/-- Whether there are arguments, and all of them are names (`TemplateIntrospection.is_keyed`). -/
def isKeyed (i : Introspection) : Bool :=
  !i.arguments.isEmpty && i.arguments.all (!·.key.isPositional)

/-- The descriptors of positions (`TemplateIntrospection.positional`). -/
def positional (i : Introspection) : List Descriptor := i.arguments.filter (·.key.isPositional)

/-- The descriptors of names (`TemplateIntrospection.keyed`). -/
def keyed (i : Introspection) : List Descriptor := i.arguments.filter (!·.key.isPositional)

/-- The descriptor of the argument that is written like `name` (`TemplateIntrospection.get`). -/
def get? (i : Introspection) (name : String) : Option Descriptor :=
  i.arguments.find? (·.name == name)

/-- The descriptor of the argument that is written like the given integer
(`TemplateIntrospection.get`). -/
def getIndex? (i : Introspection) (index : Int) : Option Descriptor :=
  i.get? (String.ofList (Text.signedNumeral index))

end Introspection

end Phrasebook
