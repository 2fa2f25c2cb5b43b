import RideLedger.Job.Runner
import RideLedger.Proofs.Alone
import RideLedger.Proofs.Bookkeeping
import RideLedger.Rehearsal.Sample

/-!
# Operations — everything that clients can call

The operations of the engine, of its services and of the batch jobs, as one list (`Operation`), and
the stores that any number of clients can bring about with them, starting from the empty store and
taking turns in any order (`MemoryStore.Reachable`). Requests that are put to the store directly
may come in between, as long as they neither post other transactions nor bring in drafts.

What a bookkeeping keeps holds in every one of these stores (`MemoryStore.Reachable.books`).
-/

namespace RideLedger

/-- A call of an operation. -/
inductive Operation
  | createAccount (ctx : RequestContext) (request : NewAccount)
  | getAccount (ctx : RequestContext) (id : AccountId)
  | listAccounts (ctx : RequestContext) (page : PageRequest)
  | activate (ctx : RequestContext) (id : AccountId)
  | deactivate (ctx : RequestContext) (id : AccountId)
  | changeFrequency (ctx : RequestContext) (id : AccountId) (frequency : InvoiceFrequency)
  | recordRideCharge (ctx : RequestContext) (r : RideChargeRequest)
  | recordPayment (ctx : RequestContext) (r : PaymentRequest)
  | append (ctx : RequestContext) (t : LedgerTransaction)
  /-- Recording a ride by the ledger service, without an invoice of its own. -/
  | ledgerRideCharge (ctx : RequestContext) (r : RideChargeRequest)
  /-- Appending by the ledger service, without an invoice of its own. -/
  | ledgerAppend (ctx : RequestContext) (t : LedgerTransaction)
  | balance (ctx : RequestContext) (id : AccountId)
  | statement (ctx : RequestContext) (id : AccountId) (start finish : Instant) (page : PageRequest)
  | trialBalance (ctx : RequestContext)
  | generateInvoice (ctx : RequestContext) (id : AccountId) (period : BillingPeriod)
      (options : InvoiceOptions)
  | generatePerRide (ctx : RequestContext) (t : LedgerTransaction)
  | generateScheduled (ctx : RequestContext) (frequency : InvoiceFrequency) (asOf : Instant)
  | getInvoice (ctx : RequestContext) (id : InvoiceId)
  | invoiceByNumber (ctx : RequestContext) (text : String)
  | listInvoices (ctx : RequestContext) (id : AccountId) (page : PageRequest)
  | pendingEvents (ctx : RequestContext) (limit : UInt32)
  | markDispatched (ctx : RequestContext) (event : EventId)
  | runScheduled (ctx : RequestContext) (frequency : InvoiceFrequency) (asOf : Instant)
  | drainOutbox (ctx : RequestContext) (limit : UInt32)

variable {α β ε : Type} {k : Bookkeeping} {e : Surroundings} {s : MemoryStore}
  {ctx : RequestContext}

/-- A computation whose result nobody waits for. -/
def unheeded (m : ExceptT ε Plan α) : Plan Unit := m.run >>= fun _ => pure ()

section Unheeded

variable {m : ExceptT ε Plan α} {w w' : Quiet}

/-- Nobody waits for the result of a run. -/
theorem run_unheeded {r : Except ε α} (h : Runs m w r w') :
    (unheeded m).run Quiet.world w = .ok ((), w') := by
  rw [unheeded, Plan.run_bind, h]
  rfl

/-- But a fault is one for everybody. -/
theorem fault_unheeded {fault : RangeFault} (h : Faults m w fault) :
    (unheeded m).run Quiet.world w = .error fault := by
  rw [unheeded, Plan.run_bind, h]
  rfl

end Unheeded

namespace Operation

/-- The computation of a call, ended in a way that suits every type of result. -/
def ended (policy : InvoicingPolicy) (ending : ∀ {α ε : Type}, ExceptT ε Plan α → Plan β) :
    Operation → Plan β
  | .createAccount ctx request => ending (Accounts.create ctx request)
  | .getAccount ctx id => ending (Accounts.get ctx id)
  | .listAccounts ctx page => ending (Accounts.list ctx page)
  | .activate ctx id => ending (Accounts.activate ctx id)
  | .deactivate ctx id => ending (Accounts.deactivate ctx id)
  | .changeFrequency ctx id frequency => ending (Accounts.changeFrequency ctx id frequency)
  | .recordRideCharge ctx r => ending (Engine.recordRideCharge policy ctx r)
  | .recordPayment ctx r => ending (Ledger.recordPayment ctx r)
  | .append ctx t => ending (Engine.append policy ctx t)
  | .ledgerRideCharge ctx r => ending (Ledger.recordRideCharge ctx r)
  | .ledgerAppend ctx t => ending (Ledger.append ctx t)
  | .balance ctx id => ending (Ledger.balance ctx id)
  | .statement ctx id start finish page => ending (Ledger.statement ctx id start finish page)
  | .trialBalance ctx => ending (Ledger.trialBalance ctx)
  | .generateInvoice ctx id period options =>
    ending (Invoices.generate policy ctx id period options)
  | .generatePerRide ctx t => ending (Invoices.generatePerRide policy ctx t)
  | .generateScheduled ctx frequency asOf =>
    ending (Invoices.generateScheduled policy ctx frequency asOf)
  | .getInvoice ctx id => ending (Invoices.get ctx id)
  | .invoiceByNumber ctx text => ending (Invoices.getByNumber ctx text)
  | .listInvoices ctx id page => ending (Invoices.list ctx id page)
  | .pendingEvents ctx limit => ending (Engine.pendingEvents ctx limit)
  | .markDispatched ctx event => ending (Engine.markDispatched ctx event)
  | .runScheduled ctx frequency asOf => ending (Job.runScheduled policy ctx frequency asOf)
  | .drainOutbox ctx limit => ending (Job.drainOutbox ctx limit)

/-- The plan of a call. -/
def plan (policy : InvoicingPolicy) (call : Operation) : Plan Unit := call.ended policy unheeded

/-- A call that posts no transaction of its caller's making but the given ones. -/
def Posts (postable : LedgerTransaction → Prop) : Operation → Prop
  | .append _ t | .ledgerAppend _ t => postable t
  | _ => True

theorem Posts.mono {postable more : LedgerTransaction → Prop} {call : Operation}
    (h : call.Posts postable) (hmore : ∀ t, postable t → more t) : call.Posts more := by
  cases call with
  | append ctx t => exact hmore t h
  | ledgerAppend ctx t => exact hmore t h
  | _ => trivial

end Operation

/-! ## The engine and the jobs -/

theorem Engine.keeps_afterCommit {policy : InvoicingPolicy} {t : LedgerTransaction} :
    Keeps k e Whatever (Engine.afterCommit policy ctx t) s := by
  unfold Engine.afterCommit
  split
  · exact keeps_pure fun _ _ => trivial
  refine keeps_bind (keeps_attempt Accounts.keeps_get) fun found s₁ _ _ => ?_
  split
  · exact keeps_pure fun _ _ => trivial
  split
  · exact keeps_pure fun _ _ => trivial
  exact keeps_bind (keeps_attempt Invoices.keeps_generatePerRide) fun _ _ _ _ =>
    keeps_pure fun _ _ => trivial

theorem Engine.keeps_recordRideCharge (he : e.Distinct) {policy : InvoicingPolicy}
    {r : RideChargeRequest} : Keeps k e Whatever (Engine.recordRideCharge policy ctx r) s :=
  keeps_bind (Ledger.keeps_recordRideCharge he) fun _ _ _ _ => Engine.keeps_afterCommit

theorem Engine.keeps_append {policy : InvoicingPolicy} {t : LedgerTransaction}
    (ht : k.postable t) : Keeps k e Whatever (Engine.append policy ctx t) s :=
  keeps_bind (Ledger.keeps_append ht) fun _ _ _ _ => Engine.keeps_afterCommit

theorem Engine.keeps_markDispatched {event : EventId} :
    Keeps k e Whatever (Engine.markDispatched ctx event) s :=
  keeps_bind keeps_now fun _ _ _ _ => Keeps.whatever (keeps_demand fun _ _ => trivial)

/-- A billing operation as part of a job. -/
theorem Job.keeps_ofService {ok : α → MemoryStore → Prop} {m : Service α} (h : Keeps k e ok m s) :
    Keeps k e Whatever (Job.ofService m) s :=
  fun hs => Plan.Meets.bind hs (h hs) fun r _ _ _ _ => match r with
    | .ok _ => fun _ _ _ => trivial
    | .error _ => fun _ _ _ => trivial

theorem Job.keeps_write {piece : OutputPiece} {wrap : String → JobError} :
    Keeps k e Whatever (Job.write piece wrap) s :=
  fun _ result => match result with
    | .ok _ => fun _ _ _ => trivial
    | .error _ => fun _ _ _ => trivial

theorem Job.keeps_dispatch {event : OutboxEvent} :
    Keeps k e Whatever (Job.dispatch ctx event) s := by
  refine keeps_bind Job.keeps_write fun _ s₁ _ _ => ?_
  refine keeps_bind Job.keeps_write fun _ s₂ _ _ => ?_
  refine keeps_bind Job.keeps_write fun _ s₃ _ _ => ?_
  exact Job.keeps_ofService Engine.keeps_markDispatched

/-- The dispatch of events one after another: by induction on the events. -/
theorem Job.keeps_dispatchAll {events : List OutboxEvent} :
    Keeps k e Whatever (Job.dispatchAll ctx events) s := by
  induction events generalizing s with
  | nil => exact keeps_pure fun _ _ => trivial
  | cons event rest ih =>
    unfold Job.dispatchAll
    refine keeps_bind (Job.keeps_ofService keeps_cancelled) fun cancelled s₁ _ _ => ?_
    split
    · exact keeps_pure fun _ _ => trivial
    refine keeps_bind Job.keeps_dispatch fun _ s₂ _ _ => ?_
    exact keeps_bind ih fun _ _ _ _ => keeps_pure fun _ _ => trivial

theorem Job.keeps_runScheduled {policy : InvoicingPolicy} {frequency : InvoiceFrequency}
    {asOf : Instant} : Keeps k e Whatever (Job.runScheduled policy ctx frequency asOf) s :=
  keeps_bind (Job.keeps_ofService Invoices.keeps_generateScheduled) fun _ _ _ _ =>
    keeps_pure fun _ _ => trivial

theorem Job.keeps_drainOutbox {limit : UInt32} :
    Keeps k e Whatever (Job.drainOutbox ctx limit) s :=
  keeps_bind (Job.keeps_ofService (keeps_demand fun _ _ => trivial)) fun _ _ _ _ =>
    Job.keeps_dispatchAll

/-! ## All operations -/

/-- **Every operation keeps the books.** -/
theorem Operation.meets (call : Operation) (policy : InvoicingPolicy) (he : e.Distinct)
    (hcall : call.Posts k.postable) (hs : s.Filed ∧ k.holds s) :
    (call.plan policy).Meets k.discipline e Whatever s := by
  cases call with
  | createAccount ctx request => exact keeps_discard Accounts.keeps_create hs
  | getAccount ctx id => exact keeps_discard Accounts.keeps_get hs
  | listAccounts ctx page => exact keeps_discard (keeps_demand fun _ _ => trivial) hs
  | activate ctx id => exact keeps_discard Accounts.keeps_change hs
  | deactivate ctx id => exact keeps_discard Accounts.keeps_change hs
  | changeFrequency ctx id frequency => exact keeps_discard Accounts.keeps_change hs
  | recordRideCharge ctx r => exact keeps_discard (Engine.keeps_recordRideCharge he) hs
  | recordPayment ctx r => exact keeps_discard (Ledger.keeps_recordPayment he) hs
  | append ctx t => exact keeps_discard (Engine.keeps_append hcall) hs
  | ledgerRideCharge ctx r => exact keeps_discard (Ledger.keeps_recordRideCharge he) hs
  | ledgerAppend ctx t => exact keeps_discard (Ledger.keeps_append hcall) hs
  | balance ctx id => exact keeps_discard Ledger.keeps_balance hs
  | statement ctx id start finish page => exact keeps_discard Ledger.keeps_statement hs
  | trialBalance ctx => exact keeps_discard Ledger.keeps_trialBalance hs
  | generateInvoice ctx id period options => exact keeps_discard Invoices.keeps_generate hs
  | generatePerRide ctx t => exact keeps_discard Invoices.keeps_generatePerRide hs
  | generateScheduled ctx frequency asOf => exact keeps_discard Invoices.keeps_generateScheduled hs
  | getInvoice ctx id => exact keeps_discard Invoices.keeps_get hs
  | invoiceByNumber ctx text => exact keeps_discard Invoices.keeps_getByNumber hs
  | listInvoices ctx id page => exact keeps_discard Invoices.keeps_list hs
  | pendingEvents ctx limit => exact keeps_discard (keeps_demand fun _ _ => trivial) hs
  | markDispatched ctx event => exact keeps_discard Engine.keeps_markDispatched hs
  | runScheduled ctx frequency asOf => exact keeps_discard Job.keeps_runScheduled hs
  | drainOutbox ctx limit => exact keeps_discard Job.keeps_drainOutbox hs

/-! ## Reachable stores -/

/-- A request that may be put to the store directly. -/
def StoreRequest.Direct (postable : LedgerTransaction → Prop) : StoreRequest → Prop
  | .appendTransaction _ t _ => postable t
  | .insertInvoice .. => False
  | _ => True

namespace MemoryStore

/-- A store that clients bring about from the empty one: any number of them, each with a call to
make, take steps in any order, and need not have finished when others begin. -/
inductive Reachable (postable : LedgerTransaction → Prop) : MemoryStore → Prop
  | empty : Reachable postable .empty
  | run {ι : Type} [DecidableEq ι] {e : ι → Surroundings} {policy : ι → InvoicingPolicy}
      {call : ι → Operation} {s s' : MemoryStore} {rest : ι → Plan Unit}
      (before : Reachable postable s) (distinct : ∀ i, (e i).Distinct)
      (posts : ∀ i, (call i).Posts postable)
      (steps : System.Run e (·.Direct postable) ⟨s, fun i => (call i).plan (policy i)⟩ ⟨s', rest⟩) :
      Reachable postable s'

/-- What clients bring about who may post some transactions, clients bring about who may post
more. -/
theorem Reachable.mono {postable more : LedgerTransaction → Prop}
    (hmore : ∀ t, postable t → more t) (h : s.Reachable postable) : s.Reachable more := by
  induction h with
  | empty => exact .empty
  | run before distinct posts steps ih =>
    refine .run ih distinct (fun i => (posts i).mono hmore) (steps.mono fun request hdirect => ?_)
    cases request with
    | appendTransaction => exact hmore _ hdirect
    | _ => exact hdirect

/-- Requests that may be put directly are sound. -/
theorem sound_of_direct {postable : LedgerTransaction → Prop} {request : StoreRequest}
    (h : request.Direct postable) : request.Sound postable s := by
  cases request with
  | insertInvoice => exact h.elim
  | appendTransaction ctx t event => exact h
  | _ => trivial

/-- **What a bookkeeping keeps holds in every reachable store.** -/
theorem Reachable.books (k : Bookkeeping) (hempty : k.holds .empty)
    (h : s.Reachable k.postable) : s.Filed ∧ k.holds s := by
  induction h with
  | empty => exact ⟨filed_empty, hempty⟩
  | @run ι hι e policy call s s' rest before distinct posts steps ih =>
    have hstart : System.Disciplined k.discipline e (fun _ => Whatever)
        ⟨s, fun i => (call i).plan (policy i)⟩ :=
      { inv := ih, meets := fun i => (call i).meets (policy i) (distinct i) (posts i) ih }
    exact (steps.disciplined (fun _ h _ _ => sound_of_direct h) hstart).1.inv

/-- What a call leaves behind that runs on its own is reachable. -/
theorem Reachable.quiet {postable : LedgerTransaction → Prop} {w w' : Quiet}
    (h : w.store.Reachable postable) {call : Operation} (hcall : call.Posts postable)
    {policy : InvoicingPolicy}
    (hrun : (call.plan policy).run Quiet.world w = .ok ((), w')) :
    w'.store.Reachable postable := by
  have steps : System.Run (fun _ : Unit => Surroundings.any) (·.Direct postable)
      ⟨w.store, Function.update (fun _ => call.plan policy) () (call.plan policy)⟩
      ⟨w'.store, Function.update (fun _ => call.plan policy) () (.done ())⟩ :=
    System.run_of_world (e := fun _ => .any) (i := ()) Quiet.fits hrun _
  rw [Function.update_eq_self] at steps
  have distinct : ∀ _ : Unit, Surroundings.any.Distinct := fun _ => Surroundings.any_distinct
  have posts : ∀ _ : Unit, call.Posts postable := fun _ => hcall
  exact .run h distinct posts steps

/-! ## Calls in turn -/

/-- A store on its own before anything happened. -/
def beforeAll : Quiet := ⟨Sample.epoch, .start, .empty⟩

/-- Calls one after another. -/
def inTurn (w : Quiet) : List Operation → Except RangeFault Quiet
  | [] => .ok w
  | call :: rest => do
    let (_, w) ← (call.plan .default).run Quiet.world w
    inTurn w rest

/-- Calls one after another lead to a reachable store. -/
theorem reachable_inTurn {postable : LedgerTransaction → Prop} {calls : List Operation}
    {w w' : Quiet} (h : w.store.Reachable postable) (hcalls : ∀ call ∈ calls, call.Posts postable)
    (hrun : inTurn w calls = .ok w') : w'.store.Reachable postable := by
  induction calls generalizing w with
  | nil => exact Except.ok.inj hrun ▸ h
  | cons call rest ih =>
    obtain ⟨⟨_, w₁⟩, hfirst, hrest⟩ := bind_eq_ok.1 hrun
    exact ih (h.quiet (hcalls call (List.mem_cons_self ..)) hfirst)
      (fun call' hcall' => hcalls call' (List.mem_cons_of_mem _ hcall')) hrest

/-- The store after calls one after another. It is not unfolded but by its equation: running the
calls is left to evaluation. -/
@[irreducible] def storeAfter (calls : List Operation) : MemoryStore :=
  ((inTurn beforeAll calls).toOption.getD beforeAll).store

theorem reachable_storeAfter {postable : LedgerTransaction → Prop} {calls : List Operation}
    (hcalls : ∀ call ∈ calls, call.Posts postable) : (storeAfter calls).Reachable postable := by
  cases hrun : inTurn beforeAll calls with
  | error fault =>
    rw [storeAfter, hrun]
    exact .empty
  | ok w =>
    rw [storeAfter, hrun]
    exact reachable_inTurn .empty hcalls hrun

/-- The account that is opened first. -/
def firstAccount : AccountId := ⟨Supply.start.ordered 0⟩

/-- Opening an account and charging a ride to it. -/
def firstCalls : List Operation :=
  [.createAccount Sample.operator
    { name := Sample.accountName, accountType := .organization, frequency := .weekly },
   .recordRideCharge Sample.operator
    { account := firstAccount, ride := "ride-1", amount := Sample.rideFare, description := none }]

end MemoryStore

end RideLedger
