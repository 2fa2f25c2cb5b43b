import RideLedger.Service.Accounts
import RideLedger.Service.Request

/-!
# Invoice operations

An invoice is generated by selecting the unbilled charges of an account,
assembling a draft and handing it to the store, which numbers it. A charge is
billed at most once: the selection leaves billed charges out, and the store
looks again when it writes. A scheduled run does this for every account of a
frequency, and a failure of one account does not touch the others.
-/

namespace RideLedger

/-- What a scheduled run did for one account. -/
inductive SweepOutcome
  | generated (invoice : Invoice)
  | skipped
  | failed (error : BillingError)

/-- A scheduled run. -/
structure ScheduledRun where
  frequency : InvoiceFrequency
  period : BillingPeriod
  outcomes : List (AccountId × SweepOutcome)
  /-- The run ended early because its request was cancelled. -/
  cancelled : Bool

namespace ScheduledRun

/-- The generated invoices, in order. -/
def invoices (r : ScheduledRun) : List Invoice :=
  r.outcomes.filterMap fun | (_, .generated i) => some i | _ => none

/-- The failures, in order. -/
def failures (r : ScheduledRun) : List (AccountId × BillingError) :=
  r.outcomes.filterMap fun | (a, .failed e) => some (a, e) | _ => none

/-- How many accounts had nothing to bill. -/
def skippedCount (r : ScheduledRun) : Nat :=
  r.outcomes.countP fun | (_, .skipped) => true | _ => false

end ScheduledRun

namespace Invoices

/-- Assembles a draft, numbered identifiers included. -/
def draft (policy : InvoicingPolicy) (ctx : RequestContext) (account : AccountId)
    (period : BillingPeriod) (charges payments : List LedgerEntry) (options : InvoiceOptions) :
    Service InvoiceDraft := do
  let now ← Service.now
  let ids ← Service.fresh (charges.length + 1)
  Service.ofOutcome (InvoiceDraft.assemble { invoice := ⟨ids 0⟩, line := fun i => ⟨ids (i + 1)⟩ }
    { tenant := ctx.tenant, account := account, period := period
      issueDate := options.issueDate.getD now.date
      paymentTermsDays := (options.paymentTermsDays.getD policy.paymentTermsDays).toNat
      charges := charges, payments := payments, generatedAt := now, generatedBy := ctx.actor })

/-- Stores a draft. -/
def persist (ctx : RequestContext) (d : InvoiceDraft) : Service Invoice := do
  let event ← Service.freshId
  Service.demand (.insertInvoice ctx d ⟨event⟩)

/-- Invoices the unbilled charges of a period. -/
def generate (policy : InvoicingPolicy) (ctx : RequestContext) (id : AccountId)
    (period : BillingPeriod) (options : InvoiceOptions) : Service Invoice := do
  let account ← Accounts.get ctx id
  let charges ← Service.demand (.unbilledCharges ctx id period)
  let payments ← Service.demand (.paymentsInPeriod ctx id period)
  persist ctx (← draft policy ctx account.id period charges payments options)

/-- Invoices one ride, by the charge that recorded it. -/
def generatePerRide (policy : InvoicingPolicy) (ctx : RequestContext) (t : LedgerTransaction) :
    Service Invoice := do
  if t.sourceType ≠ .rideCharge then throw (.validation .notRideCharge)
  let account ← Accounts.get ctx t.account
  let period ← Service.ofOutcome (Outcome.ofTemporal (BillingPeriod.singleDay t.debit.serviceDate))
  let charges ← Service.demand (.unbilledCharges ctx account.id period)
  persist ctx (← draft policy ctx account.id period (charges.filter (·.id = t.debit.id)) []
    InvoiceOptions.default)

/-- What invoicing an account came to. -/
def outcomeOf : Except BillingError Invoice → SweepOutcome
  | .ok invoice => .generated invoice
  | .error (.noUnbilledCharges ..) => .skipped
  | .error e => .failed e

/-- Invoices accounts one after another, until the request is cancelled; the
flag says whether it was. -/
def sweep (policy : InvoicingPolicy) (ctx : RequestContext) (period : BillingPeriod) :
    List Account → Service (List (AccountId × SweepOutcome) × Bool)
  | [] => return ([], false)
  | account :: rest => do
    if ← Service.cancelled then return ([], true)
    let result ← (generate policy ctx account.id period InvoiceOptions.default).attempt
    let (outcomes, cancelled) ← sweep policy ctx period rest
    return ((account.id, outcomeOf result) :: outcomes, cancelled)

/-- Invoices all accounts of a frequency for the period before an instant. -/
def generateScheduled (policy : InvoicingPolicy) (ctx : RequestContext)
    (frequency : InvoiceFrequency) (asOf : Instant) : Service ScheduledRun := do
  let period ← Service.ofExcept (frequency.periodEndingBefore asOf)
  let accounts ← Service.demand (.accountsWithFrequency ctx frequency)
  let (outcomes, cancelled) ← sweep policy ctx period accounts
  return { frequency := frequency, period := period, outcomes := outcomes, cancelled := cancelled }

/-- The invoice with an identifier. -/
def get (ctx : RequestContext) (id : InvoiceId) : Service Invoice := do
  match ← Service.demand (.findInvoice ctx id) with
  | some invoice => return invoice
  | none => throw (.notFound "Invoice" id.toText)

/-- The invoice with a number. -/
def getByNumber (ctx : RequestContext) (text : String) : Service Invoice := do
  let number ← Service.ofExcept (InvoiceNumber.parse text)
  match ← Service.demand (.findInvoiceByNumber ctx number) with
  | some invoice => return invoice
  | none => throw (.notFound "Invoice" number.text)

/-- A page of an account's invoices, the newest first. -/
def list (ctx : RequestContext) (id : AccountId) (page : PageRequest) : Service (Page Invoice) := do
  let _ ← Accounts.get ctx id
  Service.demand (.listInvoices ctx id page)

end Invoices

end RideLedger
