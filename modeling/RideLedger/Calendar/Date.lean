/-!
# Dates

A date is a day of the proleptic Gregorian calendar, held as its number
counted from 1970-01-01, within the years -262143 to 262142. Year, month and day of
month are computed from the number (`Date.civil`) and back
(`Civil.dayNumber`); the four-hundred-year cycle of the calendar has 146097
days.
-/

namespace RideLedger

/-- A year, month and day of month. -/
structure Civil where
  year : Int
  month : Nat
  day : Nat
deriving DecidableEq, Repr

/-- The days of a cycle of four hundred years. -/
abbrev cycleDays : Int := 146097

/-- The number of 1970-01-01 counted from 0000-03-01, where the cycle starts. -/
abbrev epochShift : Int := 719468

/-- Whether a year has a 29th of February. -/
def isLeapYear (year : Int) : Bool := year % 4 == 0 && (year % 100 != 0 || year % 400 == 0)

/-- The number of days of a month. -/
def daysInMonth (year : Int) (month : Nat) : Nat :=
  if month = 2 then (if isLeapYear year then 29 else 28)
  else if month = 4 ∨ month = 6 ∨ month = 9 ∨ month = 11 then 30
  else 31

namespace Civil

/-- Whether the calendar has such a day. -/
def valid (c : Civil) : Bool :=
  1 ≤ c.month && c.month ≤ 12 && 1 ≤ c.day && c.day ≤ daysInMonth c.year c.month

/-- The days from 1970-01-01. Years are counted from March, so that the leap
day is the last of its year. -/
def dayNumber (c : Civil) : Int :=
  let year := if c.month ≤ 2 then c.year - 1 else c.year
  let yearOfCycle := year % 400
  let monthFromMarch : Int := (c.month + 9) % 12
  let dayOfYear := (153 * monthFromMarch + 2) / 5 + c.day - 1
  let dayOfCycle := yearOfCycle * 365 + yearOfCycle / 4 - yearOfCycle / 100 + dayOfYear
  year / 400 * cycleDays + dayOfCycle - epochShift

/-- The year, month and day with a given number of days from 1970-01-01. -/
def ofDayNumber (n : Int) : Civil :=
  let shifted := n + epochShift
  let dayOfCycle := shifted % cycleDays
  let yearOfCycle :=
    (dayOfCycle - dayOfCycle / 1460 + dayOfCycle / 36524 - dayOfCycle / 146096) / 365
  let dayOfYear := dayOfCycle - (365 * yearOfCycle + yearOfCycle / 4 - yearOfCycle / 100)
  let monthFromMarch := (5 * dayOfYear + 2) / 153
  let day := dayOfYear - (153 * monthFromMarch + 2) / 5 + 1
  let month := if monthFromMarch < 10 then monthFromMarch + 3 else monthFromMarch - 9
  let year := yearOfCycle + shifted / cycleDays * 400
  { year := if month ≤ 2 then year + 1 else year, month := month.toNat, day := day.toNat }

end Civil

/-- The number of -262143-01-01. -/
abbrev firstDay : Int := -96465292

/-- The number of 262142-12-31. -/
abbrev lastDay : Int := 95026236

/-- A day within the supported range. -/
structure Date where
  /-- The days from 1970-01-01. -/
  number : Int
  first_le : firstDay ≤ number := by decide
  le_last : number ≤ lastDay := by decide
deriving DecidableEq, Repr

namespace Date

instance : Inhabited Date := ⟨{ number := 0 }⟩

instance : LE Date := ⟨fun a b => a.number ≤ b.number⟩
instance : LT Date := ⟨fun a b => a.number < b.number⟩

instance (a b : Date) : Decidable (a ≤ b) := inferInstanceAs (Decidable (a.number ≤ b.number))
instance (a b : Date) : Decidable (a < b) := inferInstanceAs (Decidable (a.number < b.number))

instance : Ord Date := ⟨fun a b => compare a.number b.number⟩

/-- The date with a number, if it is in range. -/
def ofNumber? (n : Int) : Option Date :=
  if h : firstDay ≤ n ∧ n ≤ lastDay then some { number := n, first_le := h.1, le_last := h.2 }
  else none

/-- The date of a year, month and day, if the calendar has it. -/
def ofCivil? (c : Civil) : Option Date := if c.valid then ofNumber? c.dayNumber else none

/-- The year, month and day. -/
def civil (d : Date) : Civil := Civil.ofDayNumber d.number

def year (d : Date) : Int := d.civil.year
def month (d : Date) : Nat := d.civil.month
def dayOfMonth (d : Date) : Nat := d.civil.day

/-- The date `days` later, if it is in range. -/
def addDays? (d : Date) (days : Int) : Option Date := ofNumber? (d.number + days)

/-- The first day of the date's month, if it is in range; every month of the
range begins in it. -/
def monthStart? (d : Date) : Option Date := ofCivil? { d.civil with day := 1 }

/-- The first day of the month before the date's, if it is in range. -/
def previousMonthStart? (d : Date) : Option Date :=
  let c := d.civil
  if c.month = 1 then ofCivil? { year := c.year - 1, month := 12, day := 1 }
  else ofCivil? { year := c.year, month := c.month - 1, day := 1 }

end Date

end RideLedger
