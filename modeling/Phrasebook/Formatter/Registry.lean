/-
# Formatters and their registry

A formatter takes a value to another one, or has a fault. Templates know formatters by name;
a registry (`FormatterRegistry`) holds formatters in the order in which their names were
first registered.

A name can be registered if it is not empty and has no blanks at its ends. Registering a
known name again replaces its formatter and keeps its place.
-/

import Phrasebook.Diagnostic.Failure
import Phrasebook.Fault
import Phrasebook.OrderedMap
import Phrasebook.Text.Blank

namespace Phrasebook

/-- A formatter. -/
abbrev Formatter := Value → Except Fault Value

/-- What applications hand in as a formatter: a formatter, or a value of some kind. -/
inductive FormatterInput where
  | formatter (f : Formatter)
  | value (kind : ValueKind)

/-- Why a formatter is not registered. -/
inductive RegistrationFault where
  | invalidName (name : String)
  | notCallable (name : String) (kind : ValueKind)
  deriving DecidableEq

/-- What is reported. -/
def RegistrationFault.message : RegistrationFault → String
  | invalidName name => "Invalid formatter name: " ++ Text.quotedString name
  | notCallable name kind => "Formatter '" ++ name ++ "' must be callable, got " ++ kind.word

/-- Why rendering stops: a failure to report, or the fault of a formatter or resolver that lies
elsewhere than with the value. -/
inductive RenderError where
  | failure (f : Failure)
  | fault (f : Fault)
  deriving DecidableEq

/-- Formatters by name (`FormatterRegistry`). -/
structure Registry where
  formatters : OrderedMap String Formatter

/-- What applications hand in as formatters: a registry, or a mapping from names to formatters. -/
inductive FormattersInput where
  | registry (r : Registry)
  | mapping (m : OrderedMap String FormatterInput)

namespace Registry

/-- The registry without formatters. -/
def empty : Registry := ⟨.empty⟩

instance : Inhabited Registry := ⟨empty⟩

/-- Whether a name can be registered. -/
def isName (name : String) : Bool := !name.isEmpty && Text.trimmed name == name

/-- The registry with a formatter under a name (`FormatterRegistry.register`). -/
def register (r : Registry) (name : String) (input : FormatterInput) :
    Except RegistrationFault Registry :=
  if isName name then
    match input with
    | .formatter f => .ok ⟨r.formatters.insert name f⟩
    | .value kind => .error (.notCallable name kind)
  else .error (.invalidName name)

/-- The registry with all formatters of a list, registered in turn. -/
def registerAll (r : Registry) : List (String × FormatterInput) → Except RegistrationFault Registry
  | [] => .ok r
  | (name, input) :: rest => (r.register name input).bind (registerAll · rest)

/-- The registry of a mapping from names to formatters (`FormatterRegistry.from_mapping`). -/
def ofMapping (m : OrderedMap String FormatterInput) : Except RegistrationFault Registry :=
  empty.registerAll m.entries

/-- The registry that is meant by what an application hands in. -/
def ofInput : FormattersInput → Except RegistrationFault Registry
  | .registry r => .ok r
  | .mapping m => ofMapping m

/-- The formatter of a name (`FormatterRegistry.resolve`). -/
def resolve (r : Registry) (name : String) : Except Failure Formatter :=
  match r.formatters.get? name with
  | some f => .ok f
  | none => .error (.notFound name)

/-- What a formatter's fault means for rendering. -/
def errorOf (name : String) (f : Fault) : RenderError :=
  if f.isRejection then .failure (.rejected name (f.message?.getD "")) else .fault f

/-- The value that the formatter of a name makes of a value (`FormatterRegistry.call`). -/
def call (r : Registry) (name : String) (v : Value) : Except RenderError Value :=
  match r.resolve name with
  | .error f => .error (.failure f)
  | .ok f => (f v).mapError (errorOf name)

/-- The registered names (`FormatterRegistry.list_formatters`). -/
def names (r : Registry) : List String := r.formatters.keys

/-- Whether a name is registered (`FormatterRegistry.has_formatter`). -/
def contains (r : Registry) (name : String) : Bool := r.formatters.contains name

/-- The number of formatters. -/
def size (r : Registry) : Nat := r.formatters.size

/-- A short account of a registry (`FormatterRegistry.__repr__`). -/
def summary (r : Registry) : String :=
  "FormatterRegistry(formatters=" ++ String.ofList (Text.numeral r.size) ++ ")"

end Registry

end Phrasebook
