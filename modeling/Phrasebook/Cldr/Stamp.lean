/-
# Time stamps

A time stamp is a number of seconds since the start of 1970 in Greenwich. Fractions are
rounded to the nearest microsecond, half way to an even one. Only the time of the day is
wanted, but a stamp must lie in a year from 1 to 9999.
-/

import Phrasebook.Fault

namespace Phrasebook
namespace Cldr
namespace Stamp

/-- The number of the first day of 1970. -/
def epoch : Int := 719163

/-- Stamps are 64-bit integers. -/
def limit : Int := 0x8000000000000000

/-- Years beyond 32 bits, counted from 1900, are not computed at all. -/
def yearLimit : Int := 0x80000000

/-- The fault of stamps that are no 64-bit integers. -/
def outOfRange : Fault :=
  .raised "OverflowError" "timestamp out of range for platform time_t" false

/-- The time of the day of a number of seconds and a number of microseconds below a million. -/
def clock (seconds : Int) (microseconds : Nat) : Except Fault Clock :=
  if seconds < -limit ∨ limit ≤ seconds then .error outOfRange
  else
    let (year, _, _) := Date.ofDayNumber (epoch + seconds.fdiv 86400)
    let s := (seconds.fmod 86400).toNat
    if year - 1900 < -yearLimit ∨ yearLimit ≤ year - 1900 then .error (.raised "OSError" "" false)
    else if year < 1 ∨ 9999 < year then .error (.calendar (.yearRange year))
    else
      .ok ⟨Fin.ofNat 24 (s / 3600), Fin.ofNat 60 (s / 60), Fin.ofNat 60 s,
        Fin.ofNat 1000000 microseconds⟩

/-- The fraction of a quotient in microseconds, as it comes out in binary arithmetic. -/
def microseconds (num den : Nat) : Nat :=
  let (n, d) := Binary64.roundedQuotient (num % den * 1000000) den
  nearestEven n d

/-- The time of the day of a binary number of seconds. -/
def ofBinary : Binary64 → Except Fault Clock
  | .nan => .error (.raised "ValueError" "Invalid value NaN (not a number)" true)
  | .infinite _ => .error outOfRange
  | .finite negative rank =>
    let (num, den) := Binary64.quotient rank
    let magnitude : Int := (num / den * 1000000 + microseconds num den : Nat)
    let total := if negative then -magnitude else magnitude
    clock (total.fdiv 1000000) (total.fmod 1000000).toNat

end Stamp
end Cldr
end Phrasebook
