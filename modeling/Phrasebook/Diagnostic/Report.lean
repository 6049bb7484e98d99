/-
# Reports

A diagnostic is reported in one of three styles (`DiagnosticFormatter`, `OutputFormat`): as
a paragraph with the severity, the code and a line for each thing that is known; on a single
line; or as a JSON object. A report can be shortened, which cuts its message at a limit and
adds three dots, and the severity of a paragraph can be coloured.
-/

import Phrasebook.Diagnostic.Basic
import Phrasebook.Text.Quoted

namespace Phrasebook

/-- The styles of a report (`OutputFormat`). -/
inductive ReportStyle where
  | paragraph
  | line
  | json
  deriving DecidableEq

/-- A report was asked for in a style that there is not. -/
structure UnknownReportStyle where
  name : String

/-- What is reported for an unknown style. -/
def UnknownReportStyle.message (e : UnknownReportStyle) : String :=
  Text.quotedString e.name ++ " is not a valid OutputFormat"

/-- The style with the given name. -/
def ReportStyle.ofName (name : String) : Except UnknownReportStyle ReportStyle :=
  if name = "rust" then .ok .paragraph
  else if name = "simple" then .ok .line
  else if name = "json" then .ok .json
  else .error ⟨name⟩

/-- How diagnostics are reported (`DiagnosticFormatter`). -/
structure Report where
  style : ReportStyle := .paragraph
  shortened : Bool := false
  coloured : Bool := false
  limit : Int := 100

namespace Diagnostic

/-- The message, after the template that it is about. -/
def attributed (d : Diagnostic) : String :=
  match d.templateId with
  | none => d.message
  | some id => "translation '" ++ id ++ "' => " ++ d.message

end Diagnostic

namespace Report

/-- The start of a text up to a limit; a negative limit counts from the end. -/
def upTo (limit : Int) (s : List Char) : List Char :=
  match limit with
  | .ofNat n => s.take n
  | .negSucc n => s.take (s.length - (n + 1))

/-- A message, cut at the limit if reports are shortened (`DiagnosticFormatter._maybe_sanitize`). -/
def shorten (r : Report) (message : String) : String :=
  if r.shortened && r.limit < message.length then
    String.ofList (upTo r.limit message.toList) ++ "..."
  else message

/-- The severity, in bold red or yellow if reports are coloured. -/
def severity (r : Report) (s : Severity) : String :=
  if r.coloured then
    (match s with
      | .error => "\x1b[1;31m"
      | .warning => "\x1b[1;33m") ++ s.name ++ "\x1b[0m"
  else s.name

/-- A line for something that may be unknown or empty. -/
def noteLine (label : String) : Option String → List String
  | none => []
  | some s => if s = "" then [] else ["  = " ++ label ++ ": " ++ s]

/-- A diagnostic as a paragraph (`DiagnosticFormatter._format_rust`). -/
def paragraph (r : Report) (d : Diagnostic) : String :=
  "\n".intercalate <|
    (r.severity d.severity ++ "[" ++ d.code.name ++ "]: " ++ r.shorten d.message) ::
      (d.templateId.map fun id => "  --> translation '" ++ id ++ "'").toList ++
      noteLine "formatter" d.formatterName ++ noteLine "help" d.hint

/-- A diagnostic on one line (`DiagnosticFormatter._format_simple`). -/
def line (r : Report) (d : Diagnostic) : String :=
  d.code.name ++ ": " ++ r.shorten d.attributed

/-- A character inside a JSON string. -/
def jsonChar (c : Char) : List Char :=
  if c = '"' ∨ c = '\\' then ['\\', c]
  else if c = '\n' then ['\\', 'n']
  else if c = '\r' then ['\\', 'r']
  else if c = '\t' then ['\\', 't']
  else if c.toNat = 0x0C then ['\\', 'f']
  else if c.toNat = 0x08 then ['\\', 'b']
  else if c.toNat < 0x20 then '\\' :: 'u' :: Text.hexadecimal 4 c.toNat
  else [c]

/-- A JSON string. -/
def jsonString (s : String) : String :=
  String.ofList ('"' :: s.toList.flatMap jsonChar ++ ['"'])

/-- A field of a JSON object. -/
def jsonField (name value : String) : String := jsonString name ++ ": " ++ value

/-- A field for something that may be unknown or empty. -/
def noteField (name : String) : Option String → List String
  | none => []
  | some s => if s = "" then [] else [jsonField name (jsonString s)]

/-- A diagnostic as a JSON object (`DiagnosticFormatter._format_json`). -/
def json (r : Report) (d : Diagnostic) : String :=
  Diagnostic.braces <| ", ".intercalate <|
    [jsonField "code" (jsonString d.code.name),
      jsonField "code_value" (String.ofList (Text.numeral d.code.number)),
      jsonField "message" (jsonString (r.shorten d.message)),
      jsonField "severity" (jsonString d.severity.name)] ++
      (d.templateId.map fun id => jsonField "template_id" (jsonString id)).toList ++
      noteField "formatter_name" d.formatterName ++ noteField "hint" d.hint

/-- A diagnostic in the style of the report (`DiagnosticFormatter.format`). -/
def format (r : Report) (d : Diagnostic) : String :=
  match r.style with
  | .paragraph => r.paragraph d
  | .line => r.line d
  | .json => r.json d

/-- Diagnostics one after the other, a blank line between neighbours
(`DiagnosticFormatter.format_all`). -/
def formatAll (r : Report) (ds : List Diagnostic) : String :=
  "\n\n".intercalate (ds.map r.format)

end Report

/-- A diagnostic as a plain paragraph (`Diagnostic.format_error`). -/
def Diagnostic.explained (d : Diagnostic) : String := Report.format {} d

end Phrasebook
