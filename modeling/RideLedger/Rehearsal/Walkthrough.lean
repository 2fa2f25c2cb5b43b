import RideLedger.Audit
import RideLedger.Diagnosis
import RideLedger.Engine
import RideLedger.Rehearsal
import RideLedger.Rehearsal.Labels
import RideLedger.Rehearsal.Sample
import RideLedger.Store

/-!
# Walkthroughs

A walkthrough takes an account through its life, a step at a time, on sample
data: it opens accounts, charges and pays, and looks at the books. Accounts and
invoices are referred to by the place at which they came up. A step may fail
and the next one goes on; but some steps are not expected to fail, and when
one does the whole walkthrough breaks down.
-/

namespace RideLedger

/-- A step. -/
inductive WalkStep
  | openAccount (request : NewAccount)
  /-- Moves the clock to noon of a day of March. -/
  | march (day : Nat)
  | charge (account : Nat) (ride : String) (amount : Money)
  | pay (account : Nat) (payment : String) (amount : Money)
  | balance (account : Nat)
  | trial
  /-- The statement from noon of one day to noon of another. -/
  | statement (account first last : Nat) (page : PageRequest)
  | generate (account : Nat) (period : BillingPeriod)
  /-- Looks for entries billed twice on some of the invoices. -/
  | billedOnce (invoices : List Nat)
  /-- Goes on in another context. -/
  | act (context : RequestContext)

/-- What a step answers. -/
inductive WalkAnswer
  | account (a : Account)
  | clock (t : Instant)
  | charged (r : RecordedCharge)
  | paid (t : LedgerTransaction)
  | balance (m : Money)
  | trial (balanced : Audit) (nets : List Money)
  | statement (s : Statement)
  | invoice (i : Invoice)
  | passed
  | context (c : RequestContext)

/-- Why a step failed. -/
inductive WalkError
  | billing (e : BillingError)
  | finding (f : Finding)

/-- Why a walkthrough broke down. -/
inductive Breakdown
  | range (fault : RangeFault)
  | noSuchTime
  | noSuchDate
  | notOpened (e : BillingError)
  | noBalance (e : BillingError)

/-- The wording of a breakdown. -/
def Breakdown.message : Breakdown → String
  | .range fault => fault.message
  | .noSuchTime => "No such local time"
  | .noSuchDate => "called `Option::unwrap()` on a `None` value"
  | .notOpened e => "account creation failed: " ++ e.diagnosis
  | .noBalance e => "balance lookup failed: " ++ e.diagnosis

/-- The state of a walkthrough. -/
structure Walkthrough where
  world : Rehearsal Store
  context : RequestContext
  /-- The opened accounts. -/
  accounts : List Account
  /-- The invoices, those of single rides too. -/
  invoices : List Invoice

/-- A part of a walkthrough. -/
abbrev Walk := ExceptT WalkError (StateT Walkthrough (Except Breakdown))

namespace Walkthrough

/-- The beginning, on a store without records. -/
def start (store : Store) : Walkthrough where
  world :=
    { now := Sample.epoch, supply := .start, cancelled := false, armed := []
      sink := { lines := [], failAt := none }, store := store }
  context := Sample.operator
  accounts := []
  invoices := []

/-- The account at a place. -/
def account (w : Walkthrough) (place : Nat) : AccountId :=
  (w.accounts[place]?.map (·.id)).getD Sample.unknownAccount

/-- The labels of what came up. -/
def labels (w : Walkthrough) : Labels :=
  (names w.accounts ++ names w.invoices).foldl (fun l (kind, u) => l.note kind u)
    { given := [], others := some "<id>" }

end Walkthrough

namespace Walk

variable {α : Type}

/-- The value of a part that is not expected to be missing. -/
def expect (breakdown : Breakdown) (a : Option α) : Walk α :=
  match a with
  | some a => pure a
  | none => throwThe Breakdown breakdown

/-- A computation, whose faults break the walkthrough down. -/
def inRange : Except RangeFault α → Walk α
  | .ok a => pure a
  | .error fault => throwThe Breakdown (.range fault)

/-- Runs a service in the present context. -/
def attempt (service : RequestContext → Service α) : Walk (Except BillingError α) := do
  let w ← getThe Walkthrough
  let (result, world) ← inRange
    (Plan.run (Rehearsal.world Store.serve) (service w.context).run w.world)
  set { w with world := world }
  return result

/-- Runs a service; an error ends the step. -/
def perform (service : RequestContext → Service α) : Walk α := do
  match ← attempt service with
  | .ok a => return a
  | .error e => throw (.billing e)

/-- Runs a service that is not expected to fail. -/
def insist (breakdown : BillingError → Breakdown) (service : RequestContext → Service α) :
    Walk α := do
  match ← attempt service with
  | .ok a => return a
  | .error e => throwThe Breakdown (breakdown e)

/-- The account at a place. -/
def account (place : Nat) : Walk AccountId := do return (← getThe Walkthrough).account place

def keepInvoice (i : Invoice) : Walk Unit :=
  modify fun w => { w with invoices := w.invoices ++ [i] }

/-- Noon of a day of March. -/
def noon (day : Nat) : Walk Instant := expect .noSuchTime (Sample.noonOfMarch? day)

end Walk

namespace WalkStep

open Walk

/-- Takes a step. -/
def take : WalkStep → Walk WalkAnswer
  | .openAccount request => do
    let a ← insist .notOpened fun c => Accounts.create c request
    modify fun w => { w with accounts := w.accounts ++ [a] }
    return .account a
  | .march day => do
    let t ← noon day
    modify fun w => { w with world := { w.world with now := t } }
    return .clock t
  | .charge place ride amount => do
    let id ← account place
    let r ← perform fun c => Engine.recordRideCharge .default c
      { account := id, ride := ride, amount := amount, description := none }
    if let some (.ok i) := r.perRide then keepInvoice i
    return .charged r
  | .pay place payment amount => do
    let id ← account place
    return .paid (← perform fun c => Ledger.recordPayment c
      { account := id, payment := payment, amount := amount, description := none })
  | .balance place => do
    let id ← account place
    return .balance (← insist .noBalance fun c => Ledger.balance c id)
  | .trial => do
    let t ← perform Ledger.trialBalance
    return .trial (Audit.balance t) (← inRange t.nets)
  | .statement place first last page => do
    let id ← account place
    let start ← noon first
    let finish ← noon last
    return .statement (← perform fun c => Ledger.statement c id start finish page)
  | .generate place period => do
    let id ← account place
    let i ← perform fun c => Invoices.generate .default c id period .default
    keepInvoice i
    return .invoice i
  | .billedOnce places => do
    let w ← getThe Walkthrough
    match Audit.billedOnce (places.filterMap (w.invoices[·]?)) with
    | .ok () => return .passed
    | .error f => throw (.finding f)
  | .act context => do
    modify fun w => { w with context := context }
    return .context context

end WalkStep

end RideLedger
