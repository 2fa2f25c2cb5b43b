import RideLedger.Rehearsal.Sample
import RideLedger.Report.Error

/-!
# Reports of sample data

The sample amounts, times, contexts and texts by their names.
-/

namespace RideLedger

instance : Reported RequestContext :=
  ⟨fun c => .array [toJson c.tenant.toText, toJson c.actor]⟩

namespace Sample

/-- The sample amounts. -/
def amountsReport : Json := .object
  [("ride_fare", toJson rideFare), ("short_ride", toJson shortRide),
    ("long_ride", toJson longRide), ("partial_payment", toJson partialPayment),
    ("overpayment", toJson overpayment)]

/-- The sample times. -/
def timesReport : Json := .object
  [("epoch", toJson epoch), ("first_week_of_march", toJson firstWeekOfMarch),
    ("march_2024", toJson wholeMarch)]

/-- The sample tenants and contexts, and the other tenant's context with an
actor. -/
def contextsReport (actor : String) : Json := .object
  [("tenant", toJson tenant.toText), ("other", toJson otherTenant.toText),
    ("operator", report operator), ("context", report (contextOf true actor))]

/-- The sample texts, with a number in some of them. -/
def textsReport (n : Nat) : Json := .object
  [("account_name", toJson accountName), ("ride_id", toJson (ride n)),
    ("payment_id", toJson (payment n)), ("invoice_number", toJson invoiceNumber)]

end Sample

end RideLedger
