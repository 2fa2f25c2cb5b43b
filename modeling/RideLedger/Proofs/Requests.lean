import RideLedger.Proofs.Operations

/-!
# Requests — which of them an operation makes

A plan makes only requests of some kind (`Plan.Asks`) if no branch of it makes another, and what
all requests of that kind keep, its run keeps (`Plan.Asks.run`). Most requests are made by any
operation; only two kinds are not. A transaction is appended by those operations alone that make
one up or are handed one, and then it is that transaction (`Operation.Offers`). An event is stamped
by those alone that dispatch events (`Operation.Stamps`). So what may be said of the requests of an
operation is a matter of these two (`Operation.asks`).
-/

namespace RideLedger

variable {α β ε : Type}

/-! ## Plans that ask only some requests -/

namespace Plan

/-- A plan that makes only requests of some kind, whatever it is told. -/
def Asks (may : StoreRequest → Prop) : Plan α → Prop
  | .done _ => True
  | .fail _ => True
  | .now next => ∀ t, (next t).Asks may
  | .fresh _ next => ∀ ids, (next ids).Asks may
  | .cancelled next => ∀ b, (next b).Asks may
  | .ask request next => may request ∧ ∀ answer, (next answer).Asks may
  | .write _ next => ∀ result, (next result).Asks may

variable {may : StoreRequest → Prop} {p : Plan α}

theorem Asks.bind {f : α → Plan β} (hp : p.Asks may) (hf : ∀ a, (f a).Asks may) :
    (p >>= f).Asks may := by
  change (p.bind f).Asks may
  induction p with
  | done a => exact hf a
  | fail fault => trivial
  | now next ih => exact fun t => ih t (hp t)
  | fresh count next ih => exact fun ids => ih ids (hp ids)
  | cancelled next ih => exact fun b => ih b (hp b)
  | ask request next ih => exact ⟨hp.1, fun answer => ih answer (hp.2 answer)⟩
  | write piece next ih => exact fun result => ih result (hp result)

/-- **What every request of a plan keeps, its run keeps.** -/
theorem Asks.run {R : MemoryStore → Prop} {w w' : Quiet} {a : α} (hp : p.Asks may)
    (hkept : ∀ {s request answer s'}, may request → s.serve false request = .ok (answer, s') →
      R s → R s')
    (hrun : p.run Quiet.world w = .ok (a, w')) (h : R w.store) : R w'.store := by
  -- by induction on the plan: of its steps, only a request reaches the store
  induction p generalizing w with
  | done b =>
    obtain ⟨-, rfl⟩ := Prod.mk.inj (Except.ok.inj hrun)
    exact h
  | fail fault => cases hrun
  | now next ih => exact ih _ (hp _) hrun h
  | fresh count next ih => exact ih _ (hp _) hrun h
  | cancelled next ih => exact ih _ (hp _) hrun h
  | ask request next ih =>
    obtain ⟨⟨answer, w₁⟩, hserved, hrest⟩ := bind_eq_ok.1 hrun
    obtain ⟨⟨answer', s⟩, hserve, hpair⟩ := bind_eq_ok.1 hserved
    obtain ⟨rfl, rfl⟩ := Prod.mk.inj (Except.ok.inj hpair)
    exact ih _ (hp.2 _) hrest (hkept hp.1 hserve h)
  | write piece next ih => exact ih _ (hp _) hrun h

end Plan

/-! ## Rules -/

/-- A computation that makes only requests of some kind. -/
abbrev Asks (may : StoreRequest → Prop) (m : ExceptT ε Plan α) : Prop := m.run.Asks may

section Rules

variable {may : StoreRequest → Prop} {m : ExceptT ε Plan α}

theorem asks_pure {a : α} : Asks may (pure a : ExceptT ε Plan α) := trivial

theorem asks_throw {x : ε} : Asks may (throw x : ExceptT ε Plan α) := trivial

theorem asks_throw_bind {x : ε} {f : α → ExceptT ε Plan β} : Asks may (throw x >>= f) := trivial

theorem asks_bind {f : α → ExceptT ε Plan β} (hm : Asks may m) (hf : ∀ a, Asks may (f a)) :
    Asks may (m >>= f) := by
  refine Plan.Asks.bind hm fun r => ?_
  cases r with
  | ok a => exact hf a
  | error x => trivial

theorem asks_attempt {m : Service α} (h : Asks may m) : Asks may m.attempt :=
  Plan.Asks.bind h fun _ => trivial

theorem asks_unheeded (h : Asks may m) : (unheeded m).Asks may := Plan.Asks.bind h fun _ => trivial

theorem asks_now : Asks may Service.now := fun _ => trivial

theorem asks_fresh {count : Nat} : Asks may (Service.fresh count) := fun _ => trivial

theorem asks_freshId : Asks may Service.freshId := fun _ => trivial

theorem asks_cancelled : Asks may Service.cancelled := fun _ => trivial

theorem asks_ofExcept {r : Except BillingError α} : Asks may (Service.ofExcept r) := trivial

theorem asks_lift {r : Except RangeFault α} : Asks may (Service.step (liftM r)) := by
  cases r with
  | ok a => trivial
  | error fault => trivial

/-- What follows a computation without steps has to do with what that gives. -/
theorem asks_ofOutcome_bind {o : Outcome α} {f : α → Service β}
    (hf : ∀ a, o.Gives a → Asks may (f a)) : Asks may (Service.ofOutcome o >>= f) := by
  change ((liftM o.run : Plan (Except BillingError α)) >>= ExceptT.bindCont f).Asks _
  cases ho : o.run with
  | error fault => trivial
  | ok r =>
    cases r with
    | ok a => exact hf a ho
    | error x => trivial

theorem asks_ofOutcome {o : Outcome α} : Asks may (Service.ofOutcome o) := by
  change (liftM o.run : Plan (Except BillingError α)).Asks _
  cases o.run with
  | ok r => trivial
  | error fault => trivial

theorem asks_ask {request : StoreRequest} (h : may request) : Asks may (Service.ask request) :=
  ⟨h, fun _ => trivial⟩

theorem asks_demand {request : StoreRequest} (h : may request) :
    Asks may (Service.demand request) := by
  refine asks_bind (asks_ask h) fun answer => ?_
  cases answer with
  | ok reply => exact asks_pure
  | error fault => exact asks_throw

end Rules

/-! ## Services -/

/-- A request that neither appends a transaction nor stamps an event. -/
def StoreRequest.Plain : StoreRequest → Prop
  | .appendTransaction .. | .markDispatched .. => False
  | _ => True

section Services

variable {may : StoreRequest → Prop} {ctx : RequestContext} {policy : InvoicingPolicy}
  (hplain : ∀ request : StoreRequest, request.Plain → may request)

include hplain

theorem Accounts.asks_get {id : AccountId} : Asks may (Accounts.get ctx id) := by
  refine asks_bind (asks_demand (hplain _ trivial)) fun found => ?_
  cases found with
  | some account => exact asks_pure
  | none => exact asks_throw

theorem Accounts.asks_create {request : NewAccount} : Asks may (Accounts.create ctx request) := by
  refine asks_bind asks_freshId fun id => ?_
  refine asks_bind asks_now fun now => ?_
  refine asks_bind asks_ofExcept fun account => ?_
  refine asks_bind (asks_ask (hplain _ trivial)) fun answer => ?_
  split
  · exact asks_pure
  · exact asks_throw
  · exact asks_throw

theorem Accounts.asks_change {id : AccountId}
    {edit? : Account → String → Instant → Option Account} :
    Asks may (Accounts.change ctx id edit?) := by
  refine asks_bind (Accounts.asks_get hplain) fun account => ?_
  refine asks_bind asks_now fun now => ?_
  split
  · exact asks_pure
  · exact asks_bind (asks_demand (hplain _ trivial)) fun _ => asks_pure

/-- Appending a transaction appends that transaction. -/
theorem Ledger.asks_append {t : LedgerTransaction}
    (ht : ∀ event, may (.appendTransaction ctx t event)) : Asks may (Ledger.append ctx t) := by
  unfold Ledger.append
  simp only
  split
  · exact asks_throw_bind
  refine asks_bind (Accounts.asks_get hplain) fun account => ?_
  split
  · exact asks_throw_bind
  refine asks_bind (asks_demand (hplain _ trivial)) fun known => ?_
  split
  · exact asks_throw_bind
  refine asks_bind asks_freshId fun event => asks_bind (asks_ask (ht _)) fun answer => ?_
  split
  · exact asks_pure
  · exact asks_throw
  · exact asks_throw
  · exact asks_throw

theorem Ledger.asks_recordRideCharge {r : RideChargeRequest}
    (ht : ∀ ids now t event, (LedgerTransaction.rideCharge ids ctx.tenant r.account r.ride r.amount
      now ctx.actor r.description).Gives t → may (.appendTransaction ctx t event)) :
    Asks may (Ledger.recordRideCharge ctx r) := by
  refine asks_bind asks_ofOutcome fun _ => ?_
  refine asks_bind (asks_bind asks_fresh fun _ => asks_pure) fun ids => ?_
  refine asks_bind asks_now fun now => ?_
  refine asks_ofOutcome_bind fun t hgives => ?_
  exact asks_bind (Ledger.asks_append hplain fun event => ht ids now t event hgives) fun _ =>
    asks_pure

theorem Ledger.asks_recordPayment {r : PaymentRequest}
    (ht : ∀ ids now t event, (LedgerTransaction.payment ids ctx.tenant r.account r.payment r.amount
      now ctx.actor r.description).Gives t → may (.appendTransaction ctx t event)) :
    Asks may (Ledger.recordPayment ctx r) := by
  refine asks_bind asks_ofOutcome fun _ => ?_
  refine asks_bind (asks_bind asks_fresh fun _ => asks_pure) fun ids => ?_
  refine asks_bind asks_now fun now => ?_
  refine asks_ofOutcome_bind fun t hgives => ?_
  exact asks_bind (Ledger.asks_append hplain fun event => ht ids now t event hgives) fun _ =>
    asks_pure

theorem Ledger.asks_balance {id : AccountId} : Asks may (Ledger.balance ctx id) :=
  asks_bind (Accounts.asks_get hplain) fun _ => asks_demand (hplain _ trivial)

theorem Ledger.asks_statement {id : AccountId} {start finish : Instant} {page : PageRequest} :
    Asks may (Ledger.statement ctx id start finish page) := by
  refine asks_bind asks_ofOutcome fun range => ?_
  refine asks_bind (Accounts.asks_get hplain) fun account => ?_
  refine asks_bind (asks_demand (hplain _ trivial)) fun opening => ?_
  exact asks_bind (asks_demand (hplain _ trivial)) fun entries => asks_ofOutcome

theorem Ledger.asks_trialBalance : Asks may (Ledger.trialBalance ctx) :=
  asks_bind (asks_demand (hplain _ trivial)) fun _ => asks_lift

theorem Invoices.asks_issue {account : AccountId} {period : BillingPeriod}
    {charges payments : List LedgerEntry} {options : InvoiceOptions} :
    Asks may (Invoices.draft policy ctx account period charges payments options >>=
      Invoices.persist ctx) := by
  refine asks_bind ?_ fun d => asks_bind asks_freshId fun event => asks_demand (hplain _ trivial)
  refine asks_bind asks_now fun now => ?_
  exact asks_bind asks_fresh fun ids => asks_ofOutcome

theorem Invoices.asks_generate {id : AccountId} {period : BillingPeriod}
    {options : InvoiceOptions} : Asks may (Invoices.generate policy ctx id period options) := by
  refine asks_bind (Accounts.asks_get hplain) fun account => ?_
  refine asks_bind (asks_demand (hplain _ trivial)) fun charges => ?_
  refine asks_bind (asks_demand (hplain _ trivial)) fun payments => ?_
  exact Invoices.asks_issue hplain

theorem Invoices.asks_generatePerRide {t : LedgerTransaction} :
    Asks may (Invoices.generatePerRide policy ctx t) := by
  unfold Invoices.generatePerRide
  simp only
  split
  · exact asks_throw_bind
  refine asks_bind (Accounts.asks_get hplain) fun account => ?_
  refine asks_bind asks_ofOutcome fun period => ?_
  refine asks_bind (asks_demand (hplain _ trivial)) fun charges => ?_
  exact Invoices.asks_issue hplain

/-- A sweep asks what its invoices ask: by induction on the accounts. -/
theorem Invoices.asks_sweep {period : BillingPeriod} {accounts : List Account} :
    Asks may (Invoices.sweep policy ctx period accounts) := by
  induction accounts with
  | nil => exact asks_pure
  | cons account rest ih =>
    unfold Invoices.sweep
    simp only
    refine asks_bind asks_cancelled fun cancelled => ?_
    split
    · exact asks_pure
    refine asks_bind (asks_attempt (Invoices.asks_generate hplain)) fun result => ?_
    exact asks_bind ih fun _ => asks_pure

theorem Invoices.asks_generateScheduled {frequency : InvoiceFrequency} {asOf : Instant} :
    Asks may (Invoices.generateScheduled policy ctx frequency asOf) := by
  refine asks_bind asks_ofExcept fun period => ?_
  refine asks_bind (asks_demand (hplain _ trivial)) fun accounts => ?_
  exact asks_bind (Invoices.asks_sweep hplain) fun _ => asks_pure

theorem Invoices.asks_get {id : InvoiceId} : Asks may (Invoices.get ctx id) := by
  refine asks_bind (asks_demand (hplain _ trivial)) fun found => ?_
  cases found with
  | some invoice => exact asks_pure
  | none => exact asks_throw

theorem Invoices.asks_getByNumber {text : String} : Asks may (Invoices.getByNumber ctx text) := by
  refine asks_bind asks_ofExcept fun number => ?_
  refine asks_bind (asks_demand (hplain _ trivial)) fun found => ?_
  cases found with
  | some invoice => exact asks_pure
  | none => exact asks_throw

theorem Invoices.asks_list {id : AccountId} {page : PageRequest} :
    Asks may (Invoices.list ctx id page) :=
  asks_bind (Accounts.asks_get hplain) fun _ => asks_demand (hplain _ trivial)

theorem Engine.asks_afterCommit {t : LedgerTransaction} :
    Asks may (Engine.afterCommit policy ctx t) := by
  unfold Engine.afterCommit
  split
  · exact asks_pure
  refine asks_bind (asks_attempt (Accounts.asks_get hplain)) fun found => ?_
  split
  · exact asks_pure
  split
  · exact asks_pure
  exact asks_bind (asks_attempt (Invoices.asks_generatePerRide hplain)) fun _ => asks_pure

end Services

section Jobs

variable {may : StoreRequest → Prop} {ctx : RequestContext}

theorem Job.asks_ofService {m : Service α} (h : Asks may m) : Asks may (Job.ofService m) :=
  Plan.Asks.bind h fun r => match r with
    | .ok _ => trivial
    | .error _ => trivial

theorem Job.asks_write {piece : OutputPiece} {wrap : String → JobError} :
    Asks may (Job.write piece wrap) :=
  fun result => match result with
    | .ok _ => trivial
    | .error _ => trivial

theorem Engine.asks_markDispatched {event : EventId}
    (hstamps : ∀ at_, may (.markDispatched ctx event at_)) :
    Asks may (Engine.markDispatched ctx event) :=
  asks_bind asks_now fun _ => asks_demand (hstamps _)

/-- Dispatching events stamps events: by induction on them. -/
theorem Job.asks_dispatchAll {events : List OutboxEvent}
    (hstamps : ∀ event at_, may (.markDispatched ctx event at_)) :
    Asks may (Job.dispatchAll ctx events) := by
  induction events with
  | nil => exact asks_pure
  | cons event rest ih =>
    unfold Job.dispatchAll
    refine asks_bind (Job.asks_ofService asks_cancelled) fun cancelled => ?_
    split
    · exact asks_pure
    refine asks_bind ?_ fun _ => asks_bind ih fun _ => asks_pure
    refine asks_bind Job.asks_write fun _ => ?_
    refine asks_bind Job.asks_write fun _ => ?_
    refine asks_bind Job.asks_write fun _ => ?_
    exact Job.asks_ofService (Engine.asks_markDispatched (hstamps event.id))

end Jobs

/-! ## All operations -/

namespace Operation

/-- The transactions that a call may append. -/
def Offers : Operation → LedgerTransaction → Prop
  | .recordRideCharge ctx r, t | .ledgerRideCharge ctx r, t => ∃ ids now,
    (LedgerTransaction.rideCharge ids ctx.tenant r.account r.ride r.amount now ctx.actor
      r.description).Gives t
  | .recordPayment ctx r, t => ∃ ids now,
    (LedgerTransaction.payment ids ctx.tenant r.account r.payment r.amount now ctx.actor
      r.description).Gives t
  | .append _ given, t | .ledgerAppend _ given, t => t = given
  | _, _ => False

/-- A call that may stamp events. -/
def Stamps : Operation → Prop
  | .markDispatched .. | .drainOutbox .. => True
  | _ => False

variable {may : StoreRequest → Prop} {policy : InvoicingPolicy} {call : Operation}

/-- **What a call asks**: plain requests, appends of the transactions that it offers, and stamps if
it is one that stamps. -/
theorem asks (hplain : ∀ request : StoreRequest, request.Plain → may request)
    (hoffers : ∀ ctx t event, call.Offers t → may (.appendTransaction ctx t event))
    (hstamps : call.Stamps → ∀ ctx event at_, may (.markDispatched ctx event at_)) :
    (call.plan policy).Asks may := by
  cases call with
  | createAccount => exact asks_unheeded (Accounts.asks_create hplain)
  | getAccount => exact asks_unheeded (Accounts.asks_get hplain)
  | listAccounts => exact asks_unheeded (asks_demand (hplain _ trivial))
  | activate => exact asks_unheeded (Accounts.asks_change hplain)
  | deactivate => exact asks_unheeded (Accounts.asks_change hplain)
  | changeFrequency => exact asks_unheeded (Accounts.asks_change hplain)
  | recordRideCharge =>
    exact asks_unheeded (asks_bind
      (Ledger.asks_recordRideCharge hplain fun ids now t event ht =>
        hoffers _ t event ⟨ids, now, ht⟩)
      fun _ => Engine.asks_afterCommit hplain)
  | recordPayment =>
    exact asks_unheeded (Ledger.asks_recordPayment hplain fun ids now t event ht =>
      hoffers _ t event ⟨ids, now, ht⟩)
  | append =>
    exact asks_unheeded (asks_bind
      (Ledger.asks_append hplain fun event => hoffers _ _ event rfl)
      fun _ => Engine.asks_afterCommit hplain)
  | ledgerRideCharge =>
    exact asks_unheeded (Ledger.asks_recordRideCharge hplain fun ids now t event ht =>
      hoffers _ t event ⟨ids, now, ht⟩)
  | ledgerAppend =>
    exact asks_unheeded (Ledger.asks_append hplain fun event => hoffers _ _ event rfl)
  | balance => exact asks_unheeded (Ledger.asks_balance hplain)
  | statement => exact asks_unheeded (Ledger.asks_statement hplain)
  | trialBalance => exact asks_unheeded (Ledger.asks_trialBalance hplain)
  | generateInvoice => exact asks_unheeded (Invoices.asks_generate hplain)
  | generatePerRide => exact asks_unheeded (Invoices.asks_generatePerRide hplain)
  | generateScheduled => exact asks_unheeded (Invoices.asks_generateScheduled hplain)
  | getInvoice => exact asks_unheeded (Invoices.asks_get hplain)
  | invoiceByNumber => exact asks_unheeded (Invoices.asks_getByNumber hplain)
  | listInvoices => exact asks_unheeded (Invoices.asks_list hplain)
  | pendingEvents => exact asks_unheeded (asks_demand (hplain _ trivial))
  | markDispatched =>
    exact asks_unheeded (Engine.asks_markDispatched fun at_ => hstamps trivial _ _ at_)
  | runScheduled =>
    exact asks_unheeded (asks_bind
      (Job.asks_ofService (Invoices.asks_generateScheduled hplain)) fun _ => asks_pure)
  | drainOutbox =>
    exact asks_unheeded (asks_bind (Job.asks_ofService (asks_demand (hplain _ trivial)))
      fun _ => Job.asks_dispatchAll (hstamps trivial _))

end Operation

end RideLedger
