import RideLedger.Calendar.Date
import RideLedger.Rounding

/-!
# Instants

An instant is a second counted from 1970-01-01T00:00:00 in universal time,
within the supported dates, and the nanoseconds passed of it. The last second
of a minute may be followed by one more, a leap second. The count of seconds
does not move on for it: its nanoseconds are those past the first second.

Instants are ordered by second and nanoseconds (`Instant.rank`), so a leap
second lies between the two seconds around it. The date of an instant is the
day its second falls on.
-/

namespace RideLedger

/-- The nanoseconds of a second. -/
abbrev nanosPerSecond : Nat := 1000000000

/-- The seconds of a day. -/
abbrev secondsPerDay : Int := 86400

/-- A point in time. -/
structure Instant where
  /-- The seconds from 1970-01-01T00:00:00. -/
  second : Int
  /-- The nanoseconds passed of the second, and of the leap second behind it. -/
  nano : Nat
  first_le : firstDay * secondsPerDay ≤ second := by decide
  lt_last : second < (lastDay + 1) * secondsPerDay := by decide
  nano_lt : nano < 2 * nanosPerSecond := by decide
  /-- Only the last second of a minute has a leap second behind it. -/
  leap : nanosPerSecond ≤ nano → second % 60 = 59 := by decide
deriving DecidableEq, Repr

namespace Instant

/-- The beginning of a second. -/
def ofSecond (second : Int) (first_le : firstDay * secondsPerDay ≤ second := by decide)
    (lt_last : second < (lastDay + 1) * secondsPerDay := by decide) : Instant :=
  { second := second, nano := 0, first_le := first_le, lt_last := lt_last
    leap := fun h => absurd h (by decide) }

instance : Inhabited Instant := ⟨ofSecond 0⟩

/-- The place of an instant in the order of time. -/
def rank (t : Instant) : Int := t.second * (2 * nanosPerSecond : Nat) + t.nano

instance : LE Instant := ⟨fun a b => a.rank ≤ b.rank⟩
instance : LT Instant := ⟨fun a b => a.rank < b.rank⟩

instance (a b : Instant) : Decidable (a ≤ b) := inferInstanceAs (Decidable (a.rank ≤ b.rank))
instance (a b : Instant) : Decidable (a < b) := inferInstanceAs (Decidable (a.rank < b.rank))

instance : Ord Instant := ⟨fun a b => compare a.rank b.rank⟩

/-- The instant at a number of nanoseconds of a second, if there is one. -/
def at? (second : Int) (nano : Nat) : Option Instant :=
  if h : (firstDay * secondsPerDay ≤ second ∧ second < (lastDay + 1) * secondsPerDay)
      ∧ nano < 2 * nanosPerSecond ∧ (nanosPerSecond ≤ nano → second % 60 = 59) then
    some
      { second := second, nano := nano, first_le := h.1.1, lt_last := h.1.2, nano_lt := h.2.1
        leap := h.2.2 }
  else none

/-- Whether an instant lies in a leap second. -/
def inLeapSecond (t : Instant) : Bool := nanosPerSecond ≤ t.nano

/-- The nanoseconds from 1970-01-01T00:00:00, as if a leap second were the first
of the next minute. -/
def nanos (t : Instant) : Int := t.second * nanosPerSecond + t.nano

/-- The instant with a number of nanoseconds, if it is in range. -/
def ofNanos? (n : Int) : Option Instant :=
  at? (n / nanosPerSecond) (n % nanosPerSecond).toNat

/-- The nanoseconds of a length of time in milliseconds, which has a sign and at
most 63 bits. -/
def nanosOfMillis? (n : Int) : Option Int := if n.natAbs < 2 ^ 63 then some (n * 1000000) else none

/-- The instant `nanos` later, if it is in range. A move by less than a second
can stay in a leap second or leave it at its beginning. Any other move on takes
the leap second for the second before it, and any other move back for the
second after it. -/
def add? (t : Instant) (nanos : Int) : Option Instant :=
  let seconds := nanos.tdiv nanosPerSecond
  if !t.inLeapSecond || seconds < 0 then ofNanos? (t.nanos + nanos)
  else if 0 < seconds ∨ (2 * nanosPerSecond : Nat) ≤ t.nano + nanos then
    ofNanos? (t.nanos - nanosPerSecond + nanos)
  else at? t.second (t.nano + nanos).toNat

/-- The day an instant falls on. -/
def date (t : Instant) : Date :=
  { number := t.second / secondsPerDay
    first_le := by
      have := t.first_le
      exact Int.le_ediv_of_mul_le (by decide) this
    le_last := by
      have := t.lt_last
      exact Int.lt_add_one_iff.1 (Int.ediv_lt_of_lt_mul (by decide) this) }

/-- The seconds passed of the instant's day. -/
def secondOfDay (t : Instant) : Nat := (t.second % secondsPerDay).toNat

end Instant

/-- The beginning of a day. -/
def Date.midnight (d : Date) : Instant :=
  .ofSecond (d.number * secondsPerDay)
    (Int.mul_le_mul_of_nonneg_right d.first_le (by decide))
    (Int.mul_lt_mul_of_pos_right (Int.lt_add_one_iff.2 d.le_last) (by decide))

end RideLedger
