import RideLedger.Choice
import RideLedger.Calendar.Period

/-!
# Invoice frequencies

How often an account is invoiced, and the period that a scheduled run bills.
The period ends with the day before the run: the day before, the seven days
before, or the calendar month before.
-/

namespace RideLedger

/-- How often an account is invoiced. -/
inductive InvoiceFrequency
  /-- One invoice per ride, right after its charge. -/
  | perRide
  | daily
  | weekly
  | monthly
deriving DecidableEq

instance : Choice InvoiceFrequency where
  values := [.perRide, .daily, .weekly, .monthly]
  name
    | .perRide => "PerRide"
    | .daily => "Daily"
    | .weekly => "Weekly"
    | .monthly => "Monthly"
  word
    | .perRide => "per_ride"
    | .daily => "daily"
    | .weekly => "weekly"
    | .monthly => "monthly"

namespace InvoiceFrequency

/-- A word as it is compared: in lower case, hyphens as underscores. -/
def normalized (word : String) : String :=
  word.map fun c => if c = '-' then '_' else c.toLower

/-- Whether scheduled runs bill accounts of this frequency. -/
def isScheduled : InvoiceFrequency → Bool
  | .perRide => false
  | _ => true

/-- Reads a frequency, in any letter case and with hyphens or underscores. -/
def ofText? (s : String) : Option InvoiceFrequency :=
  if normalized s = "perride" then some .perRide else Choice.ofWord? (normalized s)

/-- The period a run on a day bills; nothing for a frequency without
schedule. -/
def periodBefore? (today : Date) : InvoiceFrequency → Option (Except TemporalError BillingPeriod)
  | .perRide => none
  | .daily => some (BillingPeriod.previousDay today)
  | .weekly => some (BillingPeriod.trailingWeek today)
  | .monthly => some (BillingPeriod.previousMonth today)

end InvoiceFrequency

end RideLedger
