import RideLedger.Service.Accounts
import RideLedger.Service.Request

/-!
# Ledger operations

Appending transactions, each event once, and deriving balances, statements and
the trial balance from the entries. Balances are never kept: every read adds
them up again.
-/

namespace RideLedger

namespace Ledger

/-- Three fresh identifiers for a transaction; the debit's is the smallest. -/
def freshIds : Service TransactionIds := do
  let ids ← Service.fresh 3
  return { transaction := ⟨ids 2⟩, debit := ⟨ids 0⟩, credit := ⟨ids 1⟩ }

/-- Appends a transaction. The account and the key are looked at first; the
store looks at both again when it writes. -/
def append (ctx : RequestContext) (t : LedgerTransaction) : Service TransactionId := do
  if t.tenant ≠ ctx.tenant then throw (.unauthorized "transaction belongs to another tenant")
  let account ← Accounts.get ctx t.account
  if !account.canReceive then throw (.accountInactive account.id)
  if ← Service.demand (.transactionExists ctx t.key) then throw t.key.duplicate
  let event ← Service.freshId
  match ← Service.ask (.appendTransaction ctx t ⟨event⟩) with
  | .ok () => return t.id
  | .error (.conflict _) => throw t.key.duplicate
  | .error (.inactive ..) => throw (.accountInactive t.account)
  | .error fault => throw (.ofStoreFault fault)

/-- Records a ride. -/
def recordRideCharge (ctx : RequestContext) (r : RideChargeRequest) :
    Service LedgerTransaction := do
  Service.ofOutcome r.check
  let t ← Service.ofOutcome (LedgerTransaction.rideCharge (← freshIds) ctx.tenant r.account r.ride
    r.amount (← Service.now) ctx.actor r.description)
  let _ ← append ctx t
  return t

/-- Records a payment. -/
def recordPayment (ctx : RequestContext) (r : PaymentRequest) : Service LedgerTransaction := do
  Service.ofOutcome r.check
  let t ← Service.ofOutcome (LedgerTransaction.payment (← freshIds) ctx.tenant r.account r.payment
    r.amount (← Service.now) ctx.actor r.description)
  let _ ← append ctx t
  return t

/-- What an account owes. -/
def balance (ctx : RequestContext) (id : AccountId) : Service Money := do
  let _ ← Accounts.get ctx id
  Service.demand (.receivableBalance ctx id none)

/-- The statement of an account for a range of time. -/
def statement (ctx : RequestContext) (id : AccountId) (start finish : Instant)
    (page : PageRequest) : Service Statement := do
  let range ← Service.ofOutcome (Outcome.ofTemporal (StatementRange.new start finish))
  let _ ← Accounts.get ctx id
  let opening ← Service.demand (.receivableBalance ctx id (some range.start))
  let entries ← Service.demand (.receivableEntries ctx id range)
  Service.ofOutcome (Statement.build id range opening entries page)

/-- The trial balance of the tenant. -/
def trialBalance (ctx : RequestContext) : Service TrialBalance := do
  let totals ← Service.demand (.ledgerTotals ctx)
  Service.step (liftM (TrialBalance.ofTotals totals))

end Ledger

end RideLedger
