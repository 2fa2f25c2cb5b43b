import RideLedger.Service.Invoices
import RideLedger.Service.Ledger

/-!
# The billing engine

The engine adds to the ledger operations that accounts invoiced per ride get
their invoice right after the charge. A failure there is reported with the
charge and never takes it back.
-/

namespace RideLedger

/-- A recorded charge, and what became of its own invoice: nothing for accounts
that are not invoiced per ride. -/
structure RecordedCharge where
  transaction : LedgerTransaction
  perRide : Option (Except BillingError Invoice)

namespace Engine

/-- Invoices a committed charge if its account is invoiced per ride. -/
def afterCommit (policy : InvoicingPolicy) (ctx : RequestContext) (t : LedgerTransaction) :
    Service RecordedCharge := do
  if t.sourceType ≠ .rideCharge then return { transaction := t, perRide := none }
  match ← (Accounts.get ctx t.account).attempt with
  | .error e => return { transaction := t, perRide := some (.error e) }
  | .ok account =>
    if account.frequency ≠ .perRide then return { transaction := t, perRide := none }
    return { transaction := t
             perRide := some (← (Invoices.generatePerRide policy ctx t).attempt) }

/-- Records a ride. -/
def recordRideCharge (policy : InvoicingPolicy) (ctx : RequestContext) (r : RideChargeRequest) :
    Service RecordedCharge := do
  afterCommit policy ctx (← Ledger.recordRideCharge ctx r)

/-- Appends a transaction. -/
def append (policy : InvoicingPolicy) (ctx : RequestContext) (t : LedgerTransaction) :
    Service RecordedCharge := do
  let _ ← Ledger.append ctx t
  afterCommit policy ctx t

/-- The tenant's events that wait for their dispatch, the oldest first. -/
def pendingEvents (ctx : RequestContext) (limit : UInt32) : Service (List OutboxEvent) :=
  Service.demand (.pendingEvents ctx limit)

/-- Stamps an event as dispatched now. -/
def markDispatched (ctx : RequestContext) (event : EventId) : Service Unit := do
  Service.demand (.markDispatched ctx event (← Service.now))

end Engine

end RideLedger
