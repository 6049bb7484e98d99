/-
# Dates and clock times

Dates are those of the Gregorian calendar, extended backwards, with years from 1 to 9999.
A clock time has a precision of a microsecond. Neither knows a time zone.

Days are counted from the first of January of year 1, which is day 1 and a Monday.
-/

namespace Phrasebook

/-- Whether a year has a 29th of February. -/
def isLeapYear (year : Nat) : Bool := year % 4 == 0 && (year % 100 != 0 || year % 400 == 0)

/-- The number of days of a month. -/
def daysInMonth (year month : Nat) : Nat :=
  if month = 2 then if isLeapYear year then 29 else 28
  else if month = 4 ∨ month = 6 ∨ month = 9 ∨ month = 11 then 30
  else 31

/-- Whether three numbers are a year, a month and a day of the calendar. -/
def IsDate (year month day : Nat) : Prop :=
  (1 ≤ year ∧ year ≤ 9999) ∧ (1 ≤ month ∧ month ≤ 12) ∧ 1 ≤ day ∧ day ≤ daysInMonth year month

instance (year month day : Nat) : Decidable (IsDate year month day) := by
  unfold IsDate
  infer_instance

/-- A date. -/
structure Date where
  year : Nat
  month : Nat
  day : Nat
  valid : IsDate year month day
  deriving DecidableEq

/-- A time of the day. -/
structure Clock where
  hour : Fin 24
  minute : Fin 60
  second : Fin 60
  microsecond : Fin 1000000
  deriving DecidableEq

/-- A date and a time of that day. -/
structure DateTime where
  date : Date
  clock : Clock
  deriving DecidableEq

namespace Date

/-- The number of days before a year. -/
def daysBeforeYear (year : Nat) : Nat :=
  365 * (year - 1) + (year - 1) / 4 - (year - 1) / 100 + (year - 1) / 400

/-- The number of days of a year before a month. -/
def daysBeforeMonth (year month : Nat) : Nat :=
  (List.range (month - 1)).foldl (fun n m => n + daysInMonth year (m + 1)) 0

/-- The number of the day of a year, a month and a day. -/
def dayNumber (year month day : Nat) : Nat :=
  daysBeforeYear year + daysBeforeMonth year month + day

/-- The day of the week, from 0 for Monday to 6 for Sunday. -/
def weekdayOf (year month day : Nat) : Nat := (dayNumber year month day + 6) % 7

/-- The day of the week, from 0 for Monday to 6 for Sunday. -/
def weekday (d : Date) : Fin 7 := ⟨weekdayOf d.year d.month d.day, Nat.mod_lt _ (by decide)⟩

/-- The year, the month and the day of a day that is counted from the first of March of year
zero. The years of this count start in March, so that the leap day is the last day of its year;
400 years have 146097 days, and five months from March on have 153. -/
def ofMarchDay (n : Int) : Int × Nat × Nat :=
  let era := n.fdiv 146097
  let dayOfEra := (n.fmod 146097).toNat
  let yearOfEra := (dayOfEra - dayOfEra / 1460 + dayOfEra / 36524 - dayOfEra / 146096) / 365
  let dayOfYear := dayOfEra - (365 * yearOfEra + yearOfEra / 4 - yearOfEra / 100)
  let fromMarch := (5 * dayOfYear + 2) / 153
  let day := dayOfYear - (153 * fromMarch + 2) / 5 + 1
  let month := if fromMarch < 10 then fromMarch + 3 else fromMarch - 9
  (era * 400 + yearOfEra + (if month ≤ 2 then 1 else 0), month, day)

/-- The year, the month and the day of a day number. The first of March of year zero is day
-305. -/
def ofDayNumber (n : Int) : Int × Nat × Nat := ofMarchDay (n + 305)

/-- The Gregorian calendar around a century that is no leap year and one that is. -/
example : ofDayNumber (dayNumber 1900 2 28 + 1) = (1900, 3, 1) ∧
    ofDayNumber (dayNumber 2000 2 28 + 1) = (2000, 2, 29) ∧ ofDayNumber 1 = (1, 1, 1) ∧
    ofDayNumber 0 = (0, 12, 31) ∧ ofDayNumber 719163 = (1970, 1, 1) := by
  decide +kernel

end Date

end Phrasebook
