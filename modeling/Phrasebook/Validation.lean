/-
# Validation of a dictionary

A dictionary of templates is validated (`validate_templates`) by introspecting every
template. The result (`ValidationResult`) has the descriptors of every template and all
diagnostics, both in the order of the dictionary. Warnings do not make a template unusable.
-/

import Phrasebook.Diagnostic.Report
import Phrasebook.Introspection

namespace Phrasebook

/-- The arguments and the warnings of all templates of a dictionary (`ValidationResult`). -/
structure Validation where
  arguments : OrderedMap String (List Descriptor)
  warnings : List Diagnostic
  deriving DecidableEq

namespace Validation

/-- The validation that finds nothing to validate. -/
def empty : Validation := ⟨.empty, []⟩

/-- A validation with one more template. -/
def add (v : Validation) (i : Introspection) : Validation :=
  ⟨v.arguments.insert i.templateId i.arguments, v.warnings ++ i.diagnostics⟩

/-- The validation of templates that have been introspected. -/
def ofIntrospections (is : List Introspection) : Validation := is.foldl add empty

/-- The introspections of all templates of a list, in order (`validate_templates`). -/
def introspectAll : List (String × String) → Except ParseError (List Introspection)
  | [] => .ok []
  | (id, source) :: rest =>
    match Introspection.ofSource id source with
    | .error e => .error e
    | .ok i => (introspectAll rest).map (i :: ·)

/-- The validation of a dictionary (`validate_templates`). -/
def ofDictionary (d : OrderedMap String String) : Except ParseError Validation :=
  (introspectAll d.entries).map ofIntrospections

/-- Whether there are no warnings (`ValidationResult.is_valid`). -/
def isValid (v : Validation) : Bool := v.warnings.isEmpty

/-- The number of warnings (`ValidationResult.warning_count`). -/
def warningCount (v : Validation) : Nat := v.warnings.length

/-- The number of templates (`ValidationResult.template_count`). -/
def templateCount (v : Validation) : Nat := v.arguments.size

/-- The warnings about one template (`ValidationResult.warnings_for`). -/
def warningsFor (v : Validation) (templateId : String) : List Diagnostic :=
  v.warnings.filter (·.templateId == some templateId)

/-- A number in a report. -/
def count (n : Nat) : String := String.ofList (Text.numeral n)

/-- The result in words; with `details` every warning has its line (`ValidationResult.format`). -/
def summary (v : Validation) (details : Bool) : String :=
  if v.isValid then "Validation passed: " ++ count v.templateCount ++ " template(s), no warnings"
  else
    "\n".intercalate <| ("Warnings (" ++ count v.warningCount ++ "):") ::
      if details then v.warnings.map fun w => "  [" ++ w.code.name ++ "]: " ++ w.attributed else []

end Validation

/-- The result of a validation in words, a line for every warning
(`DiagnosticFormatter.format_validation_result`). -/
def Report.formatValidation (r : Report) (v : Validation) : String :=
  if v.isValid then "Validation passed: " ++ Validation.count v.templateCount ++ " template(s)"
  else
    "\n".intercalate <|
      ("Validation found " ++ Validation.count v.warningCount ++ " warning(s) in " ++
        Validation.count v.templateCount ++ " template(s)") ::
      "\nWarnings:" :: v.warnings.map fun w => "  " ++ r.line w

end Phrasebook
