import RideLedger.Engine

/-!
# Batch jobs

Two jobs run for one tenant at a time: the scheduled invoices, with a summary
of what they did, and the dispatch of queued events. Each event is written as
one line, passed on, and only then stamped as dispatched, so that a failure
leaves it and all later ones waiting.
-/

namespace RideLedger

/-- Why a job ended without result. -/
inductive JobError
  | billing (e : BillingError)
  | output (text : String)
  | serialization (text : String)

/-- The wording of an error. -/
def JobError.message : JobError → String
  | .billing e => e.message
  | .output text => "Failed to write job output: " ++ text
  | .serialization text => "Failed to serialize event: " ++ text

/-- An account whose invoice failed. -/
structure FailedAccount where
  account : AccountId
  error : String

/-- What a scheduled run did. -/
structure SweepSummary where
  frequency : InvoiceFrequency
  periodStart : Date
  periodEnd : Date
  invoices : List String
  skipped : Nat
  failed : List FailedAccount
  cancelled : Bool

namespace SweepSummary

/-- Whether every account was done. -/
def isComplete (s : SweepSummary) : Bool := s.failed.isEmpty && !s.cancelled

/-- The summary of a run. -/
def ofRun (r : ScheduledRun) : SweepSummary :=
  { frequency := r.frequency, periodStart := r.period.start, periodEnd := r.period.finish
    invoices := r.invoices.map (·.number.text), skipped := r.skippedCount
    failed := r.failures.map fun (a, e) => { account := a, error := e.message }
    cancelled := r.cancelled }

end SweepSummary

instance : ToJson FailedAccount :=
  ⟨fun f => .object [("account_id", toJson f.account), ("error", toJson f.error)]⟩

instance : ToJson SweepSummary where
  toJson s := .object
    [("frequency", toJson s.frequency), ("period_start", toJson s.periodStart),
      ("period_end", toJson s.periodEnd), ("invoices", toJson s.invoices),
      ("skipped", toJson s.skipped), ("failed", toJson s.failed),
      ("cancelled", toJson s.cancelled)]

/-- A job: a plan for a result or an error. -/
abbrev Job := ExceptT JobError Plan

namespace Job

/-- A billing operation as part of a job. -/
def ofService {α : Type} (s : Service α) : Job α := ExceptT.mk do
  match ← s.run with
  | .ok a => return .ok a
  | .error e => return .error (.billing e)

/-- Writes a piece of output. -/
def write (piece : OutputPiece) (wrap : String → JobError) : Job Unit := ExceptT.mk do
  match ← Plan.write piece .done with
  | .ok () => return .ok ()
  | .error text => return .error (wrap text)

/-- Runs the scheduled invoices. -/
def runScheduled (policy : InvoicingPolicy) (ctx : RequestContext) (frequency : InvoiceFrequency)
    (asOf : Instant) : Job SweepSummary := do
  return .ofRun (← ofService (Invoices.generateScheduled policy ctx frequency asOf))

/-- Writes one event as a line, passes it on, and stamps it. -/
def dispatch (ctx : RequestContext) (event : OutboxEvent) : Job Unit := do
  write (.text event.line) .serialization
  write .lineEnd .output
  write .flush .output
  ofService (Engine.markDispatched ctx event.id)

/-- Dispatches events in order, until the request is cancelled; gives their
number. -/
def dispatchAll (ctx : RequestContext) : List OutboxEvent → Job Nat
  | [] => return 0
  | event :: rest => do
    if ← ofService Service.cancelled then return 0
    dispatch ctx event
    return (← dispatchAll ctx rest) + 1

/-- Dispatches the first events that wait for it. -/
def drainOutbox (ctx : RequestContext) (limit : UInt32) : Job Nat := do
  dispatchAll ctx (← ofService (Engine.pendingEvents ctx limit))

end Job

end RideLedger
