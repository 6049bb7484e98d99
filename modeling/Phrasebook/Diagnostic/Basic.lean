/-
# Diagnostics

A diagnostic (`Diagnostic`, `ErrorTemplate`) is a problem with a template or with one of its
formatters: a code, a message, and as far as they are known the template, the formatter and
a way out. Problems with the numbering of arguments are warnings, the rest are errors.
-/

import Phrasebook.Text.Digit

namespace Phrasebook

/-- The kinds of problem. -/
inductive DiagnosticCode where
  | mixedArgumentKinds
  | nonContiguousIndex
  | formatterNotFound
  | formatterFailed
  deriving DecidableEq

namespace DiagnosticCode

/-- All kinds of problem. -/
def all : List DiagnosticCode :=
  [mixedArgumentKinds, nonContiguousIndex, formatterNotFound, formatterFailed]

/-- The name of a kind in reports. -/
def name : DiagnosticCode → String
  | mixedArgumentKinds => "MIXED_ARGUMENT_KINDS"
  | nonContiguousIndex => "NON_CONTIGUOUS_INDEX"
  | formatterNotFound => "FORMATTER_NOT_FOUND"
  | formatterFailed => "FORMATTER_FAILED"

/-- The number of a kind: 1000 and above for the structure of templates, 2000 and above
for formatters. -/
def number : DiagnosticCode → Nat
  | mixedArgumentKinds => 1001
  | nonContiguousIndex => 1002
  | formatterNotFound => 2001
  | formatterFailed => 2002

/-- The kind with the given name. -/
def ofName? (s : String) : Option DiagnosticCode := all.find? (·.name == s)

end DiagnosticCode

/-- How grave a problem is. -/
inductive Severity where
  | error
  | warning
  deriving DecidableEq

/-- The word for a severity in reports. -/
def Severity.name : Severity → String
  | .error => "error"
  | .warning => "warning"

/-- A problem, with all that is known about it. -/
structure Diagnostic where
  code : DiagnosticCode
  message : String
  templateId : Option String := none
  hint : Option String := none
  formatterName : Option String := none
  severity : Severity := .error
  deriving DecidableEq

namespace Diagnostic

/-- A reference to an argument, in braces. -/
def braces (s : String) : String := "\x7b" ++ s ++ "\x7d"

/-- Where the argument at position `expected` should have come, another one was found
(`ErrorTemplate.argument_expected`). -/
def argumentExpected (code : DiagnosticCode) (expected : Int) (found templateId : String) :
    Diagnostic where
  code
  message := "argument " ++ braces (String.ofList (Text.signedNumeral expected)) ++
    " expected, but " ++ braces found ++ " found"
  templateId := some templateId
  severity := .warning

/-- A template has arguments of both kinds (`ErrorTemplate.mixed_argument_kinds`). -/
def mixedArgumentKinds (templateId : String) : Diagnostic where
  code := .mixedArgumentKinds
  message := "you can't mix keyed and index-based args"
  templateId := some templateId
  hint := some ("Use either " ++ braces "0" ++ "-style or " ++ braces "name" ++
    "-style arguments in one template")
  severity := .warning

/-- The positions of a template have a gap (`ErrorTemplate.skipped_index`). -/
def skippedIndex (templateId : String) : Diagnostic where
  code := .nonContiguousIndex
  message := "make sure to not skip an index"
  templateId := some templateId
  hint := some "Positional arguments must be numbered 0, 1, 2, ..."
  severity := .warning

/-- A template uses a formatter that is not registered (`ErrorTemplate.formatter_not_found`). -/
def formatterNotFound (name : String) : Diagnostic where
  code := .formatterNotFound
  message := "Formatter '" ++ name ++ "' is not registered"
  hint := some "Register the formatter before rendering templates that use it"
  formatterName := some name

/-- A formatter rejected its value for the given reason (`ErrorTemplate.formatter_failed`). -/
def formatterFailed (name reason : String) : Diagnostic where
  code := .formatterFailed
  message := "Formatter '" ++ name ++ "' failed: " ++ reason
  hint := some "Check that the argument value has the type the formatter expects"
  formatterName := some name

end Diagnostic

end Phrasebook
