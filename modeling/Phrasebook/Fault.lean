/-
# Faults of formatters and resolvers

Why a formatter or a plural resolver has no answer. Formatters and resolvers of applications and
the locale library have faults of their own, which have a name and a message.

A rejection says that the value is of the wrong kind or has the wrong form, so that the
fault lies with the value. All other faults lie elsewhere. `FormatterRegistry.call` reports
rejections, which are the exceptions `TypeError` and `ValueError`, and lets all others through.
-/

import Phrasebook.Calendar.Fault
import Phrasebook.Value

namespace Phrasebook

/-- Why there is no answer. -/
inductive Fault where
  | number (f : NumberFault)
  | calendar (f : CalendarFault)
  | notNumber (kind : ValueKind)
  | noMagnitude (kind : ValueKind)
  /-- A fault of an application or of the locale library. -/
  | raised (name message : String) (rejection : Bool)
  deriving DecidableEq

/-- Whether the fault lies with the form of the number. -/
def NumberFault.isRejection : NumberFault → Bool
  | invalidOperation => false
  | overflow => false
  | beyondBinary => false
  | longNumeral => true

namespace Fault

/-- The word for a kind of value where its magnitude is wanted. -/
def magnitudeWord : ValueKind → String
  | .date => "datetime.date"
  | .time => "datetime.time"
  | .datetime => "datetime.datetime"
  | k => k.word

/-- What is reported, if anything. -/
def message? : Fault → Option String
  | number f => f.message?
  | calendar f => some f.message
  | notNumber kind => some ("number expects int, float or Decimal, got " ++ kind.word)
  | noMagnitude kind => some ("bad operand type for abs(): '" ++ magnitudeWord kind ++ "'")
  | raised _ message _ => some message

/-- Whether the fault lies with the value. -/
def isRejection : Fault → Bool
  | number f => f.isRejection
  | calendar _ => true
  | notNumber _ => true
  | noMagnitude _ => true
  | raised _ _ rejection => rejection

end Fault

end Phrasebook
