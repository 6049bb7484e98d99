/-
# Failures

A failure (`PluralexError` and its subclasses) is what rendering reports to the caller: that
a formatter is not registered, that a formatter rejected its value, or a failure of a more
general kind. Each kind but the most general one is a kind of another. A failure carries
either a plain message or a diagnostic; the message of a diagnostic is its report as a
paragraph.
-/

import Phrasebook.Diagnostic.Report

namespace Phrasebook

/-- The kinds of failure. -/
inductive FailureKind where
  | general
  | resolution
  | formatterNotFound
  | formatterFailed
  deriving DecidableEq

namespace FailureKind

/-- A kind and all that are more general, the most general last. -/
def lineage : FailureKind → List FailureKind
  | general => [general]
  | resolution => [resolution, general]
  | formatterNotFound => [formatterNotFound, resolution, general]
  | formatterFailed => [formatterFailed, resolution, general]

/-- Whether a failure of the kind says which formatter it is about. -/
def namesFormatter : FailureKind → Bool
  | general => false
  | resolution => false
  | formatterNotFound => true
  | formatterFailed => true

end FailureKind

/-- What a failure says. -/
inductive FailureContent where
  | message (text : String)
  | diagnostic (d : Diagnostic)
  deriving DecidableEq

/-- A failure; the formatter's name is empty where none is meant (`PluralexError`). -/
structure Failure where
  kind : FailureKind
  content : FailureContent
  formatter : String := ""
  deriving DecidableEq

namespace Failure

/-- The text of a failure. -/
def message (f : Failure) : String :=
  match f.content with
  | .message text => text
  | .diagnostic d => d.explained

/-- The diagnostic of a failure. -/
def diagnostic? (f : Failure) : Option Diagnostic :=
  match f.content with
  | .message _ => none
  | .diagnostic d => some d

/-- The formatter that the failure is about. -/
def formatter? (f : Failure) : Option String :=
  if f.kind.namesFormatter then some f.formatter else none

/-- The failure to find a formatter (`FormatterNotFoundError`). -/
def notFound (name : String) : Failure :=
  ⟨.formatterNotFound, .diagnostic (.formatterNotFound name), name⟩

/-- The failure of a formatter that rejects its value (`FormatterFailedError`). -/
def rejected (name reason : String) : Failure :=
  ⟨.formatterFailed, .diagnostic (.formatterFailed name reason), name⟩

end Failure

end Phrasebook
