/-
# Faults of numbers

What can be wrong with arithmetic on a number, with testing it in binary, or with writing it
down. Arithmetic on decimals has faults without a report.
-/

namespace Phrasebook

/-- Why a number has no result. -/
inductive NumberFault where
  | invalidOperation
  | overflow
  | beyondBinary
  | longNumeral
  deriving DecidableEq

namespace NumberFault

/-- What is reported, if anything. -/
def message? : NumberFault → Option String
  | invalidOperation => none
  | overflow => none
  | beyondBinary => some "int too large to convert to float"
  | longNumeral =>
    some ("Exceeds the limit (4300 digits) for integer string conversion; " ++
      "use sys.set_int_max_str_digits() to increase the limit")

end NumberFault

end Phrasebook
