import RideLedger.Proofs.LastStep
import RideLedger.Proofs.Operations
import RideLedger.Proofs.Transcript

/-!
# Recording — what a client has on record when it ends

A transaction that is appended and an invoice that is stored are put on record, and what is on
record stays there. So a caller that is told of an error should be able to rely on there being
nothing: a plan *ends well* (`Plan.EndsWell`) if it does not end in an error once something of it
was put on record. Every operation does (`Operation.endsWell_verdict`), and those that only read,
or write accounts and stamps, never put anything on record (`Operation.reads_verdict`).
-/

namespace RideLedger

/-- What is put on record: a transaction or an invoice, and the event that reports it. -/
inductive Record
  | posted (t : LedgerTransaction) (event : EventId)
  | invoiced (i : Invoice) (event : EventId)

/-- What an exchange put on record: an append or an invoice that went through. -/
def Exchange.record? : Exchange → Option Record
  | ⟨.appendTransaction _ t event, .ok _⟩ => some (.posted t event)
  | ⟨.insertInvoice _ _ event, .ok i⟩ => some (.invoiced i event)
  | _ => none

/-- A request that neither posts nor bills puts nothing on record. -/
theorem Exchange.record?_of_leavesBooks {request : StoreRequest} {answer : request.Answer}
    (h : request.LeavesBooks) : Exchange.record? ⟨request, answer⟩ = none := by
  cases request with
  | appendTransaction => exact h.elim
  | insertInvoice => exact h.elim
  | _ => rfl

variable {α β ε : Type}

namespace Plan

/-- A plan that ends well once something of it is on record; the flag says whether that is so
already. -/
def EndsWell (good : α → Prop) : Bool → Plan α → Prop
  | recorded, .done a => recorded = true → good a
  | _, .fail _ => True
  | recorded, .now next => ∀ t, (next t).EndsWell good recorded
  | recorded, .fresh _ next => ∀ ids, (next ids).EndsWell good recorded
  | recorded, .cancelled next => ∀ b, (next b).EndsWell good recorded
  | recorded, .ask request next => ∀ answer,
    (next answer).EndsWell good (recorded || (Exchange.record? ⟨request, answer⟩).isSome)
  | recorded, .write _ next => ∀ result, (next result).EndsWell good recorded

/-- A plan that never posts or bills. -/
abbrev Reads (p : Plan α) : Prop := p.WritesLast (fun _ => False) (fun _ => True) fun _ => False

variable {good : α → Prop} {good' : β → Prop} {recorded : Bool} {p p' : Plan α}

/-- What ends well with something on record ends well without it. -/
theorem EndsWell.weaken {less : Bool} (h : p.EndsWell good recorded)
    (hless : less = true → recorded = true) : p.EndsWell good less := by
  induction p generalizing recorded less with
  | done a => exact fun hrecorded => h (hless hrecorded)
  | fail fault => trivial
  | now next ih => exact fun t => ih t (h t) hless
  | fresh count next ih => exact fun ids => ih ids (h ids) hless
  | cancelled next ih => exact fun b => ih b (h b) hless
  | ask request next ih =>
    refine fun answer => ih answer (h answer) fun hany => ?_
    rw [Bool.or_eq_true] at hany ⊢
    exact hany.imp_left hless
  | write piece next ih => exact fun result => ih result (h result) hless

/-- A plan of which nothing is ever on record ends well. -/
theorem Reads.endsWell (h : p.Reads) : p.EndsWell good false := by
  induction p with
  | done a => exact fun hrecorded => nomatch hrecorded
  | fail fault => trivial
  | now next ih => exact fun t => ih t (h t)
  | fresh count next ih => exact fun ids => ih ids (h ids)
  | cancelled next ih => exact fun b => ih b (h b)
  | ask request next ih =>
    intro answer
    rcases h with ⟨hleaves, hnext⟩ | ⟨hwrite, -⟩
    · rw [Exchange.record?_of_leavesBooks hleaves]
      exact ih answer (hnext answer)
    · exact hwrite.elim
  | write piece next ih => exact fun result => ih result (h result)

/-- Plans in a row end well if the second does, from whatever is on record by then. -/
theorem EndsWell.bind {f : α → Plan β} (hp : p.EndsWell good recorded)
    (hf : ∀ a later, (later = true → good a) → (f a).EndsWell good' later) :
    (p >>= f).EndsWell good' recorded := by
  change (p.bind f).EndsWell good' recorded
  induction p generalizing recorded with
  | done a => exact hf a recorded hp
  | fail fault => trivial
  | now next ih => exact fun t => ih t (hp t)
  | fresh count next ih => exact fun ids => ih ids (hp ids)
  | cancelled next ih => exact fun b => ih b (hp b)
  | ask request next ih => exact fun answer => ih answer (hp answer)
  | write piece next ih => exact fun result => ih result (hp result)

/-- A plan all of whose results are good ends well. -/
theorem endsWell_of_forall (h : ∀ a, good a) : p.EndsWell good recorded := by
  induction p generalizing recorded with
  | done a => exact fun _ => h a
  | fail fault => trivial
  | now next ih => exact fun t => ih t
  | fresh count next ih => exact fun ids => ih ids
  | cancelled next ih => exact fun b => ih b
  | ask request next ih => exact fun answer => ih answer
  | write piece next ih => exact fun result => ih result

/-- A plan that reads, and one that reads on with its result. -/
theorem Reads.bind {f : α → Plan β} (hp : p.Reads) (hf : ∀ a, (f a).Reads) : (p >>= f).Reads :=
  WritesLast.bind hp hf

/-- A step keeps a plan ending well, with its exchange taken into account. -/
theorem EndsWell.move {e : Surroundings} {s s' : MemoryStore} {x : Option Exchange}
    (hp : p.EndsWell good recorded) (taken : Move e p s x p' s') :
    p'.EndsWell good (recorded || x.any (·.record?.isSome)) := by
  cases taken with
  | now => simpa using hp _
  | fresh => simpa using hp _
  | cancelled => simpa using hp _
  | ask => exact hp _
  | overrun => trivial
  | write => simpa using hp _

/-- So does a plan that only reads keep reading. -/
theorem Reads.move {e : Surroundings} {s s' : MemoryStore} {x : Option Exchange}
    (hp : p.Reads) (taken : Move e p s x p' s') : p'.Reads ∧ ∀ y ∈ x, y.record? = none := by
  cases taken with
  | ask read served =>
    rcases hp with ⟨hleaves, hnext⟩ | ⟨hwrite, -⟩
    · exact ⟨hnext _, fun y hy => Option.some.inj hy ▸ Exchange.record?_of_leavesBooks hleaves⟩
    · exact hwrite.elim
  | overrun => exact ⟨trivial, fun y hy => nomatch hy⟩
  | _ => exact ⟨hp _, fun y hy => nomatch hy⟩

end Plan

/-! ## Rules -/

/-- A result, not an error. -/
def Succeeded : Except ε α → Prop
  | .ok _ => True
  | .error _ => False

/-- A computation that does not end in an error once something is on record. -/
abbrev EndsWell (recorded : Bool) (m : ExceptT ε Plan α) : Prop :=
  m.run.EndsWell Succeeded recorded

/-- A computation that never posts or bills. -/
abbrev Reads (m : ExceptT ε Plan α) : Prop := m.run.Reads

section Rules

variable {recorded : Bool} {m : ExceptT ε Plan α} {f : α → ExceptT ε Plan β}

theorem endsWell_pure {a : α} : EndsWell recorded (pure a : ExceptT ε Plan α) := fun _ => trivial

theorem endsWell_throw {x : ε} : EndsWell false (throw x : ExceptT ε Plan α) :=
  fun hrecorded => nomatch hrecorded

theorem endsWell_throw_bind {x : ε} : EndsWell false (throw x >>= f : ExceptT ε Plan β) :=
  fun hrecorded => nomatch hrecorded

/-- A part that may put something on record, and a rest that cannot fail. -/
theorem endsWell_bind (hm : EndsWell recorded m) (hf : ∀ a, EndsWell true (f a)) :
    EndsWell recorded (m >>= f) := by
  refine Plan.EndsWell.bind hm fun r later hr => ?_
  cases r with
  | ok a => exact (hf a).weaken fun _ => rfl
  | error x =>
    cases later with
    | true => exact (hr rfl).elim
    | false => exact endsWell_throw

/-- A part that puts nothing on record, and the rest. -/
theorem endsWell_read_bind (hm : Reads m) (hf : ∀ a, EndsWell false (f a)) :
    EndsWell false (m >>= f) := by
  have hnothing : m.run.EndsWell (fun _ => False) false := Plan.Reads.endsWell hm
  refine Plan.EndsWell.bind hnothing fun r later hr => ?_
  cases later with
  | true => exact (hr rfl).elim
  | false =>
    cases r with
    | ok a => exact hf a
    | error x => exact endsWell_throw

/-- An attempt does not fail. -/
theorem endsWell_attempt {m : Service α} : EndsWell recorded m.attempt :=
  Plan.EndsWell.bind (Plan.endsWell_of_forall fun _ => trivial) fun _ _ _ => endsWell_pure

theorem reads_pure {a : α} : Reads (pure a : ExceptT ε Plan α) := trivial

theorem reads_throw {x : ε} : Reads (throw x : ExceptT ε Plan α) := trivial

theorem reads_bind (hm : Reads m) (hf : ∀ a, Reads (f a)) : Reads (m >>= f) := by
  refine hm.bind fun r => ?_
  cases r with
  | ok a => exact hf a
  | error x => trivial

end Rules

namespace Service

theorem reads_cancelled : Reads cancelled := fun _ => trivial

theorem reads_ofExcept {r : Except BillingError α} : Reads (ofExcept r) := trivial

theorem reads_lift {r : Except RangeFault α} : Reads (step (liftM r)) := by
  cases r with
  | ok a => trivial
  | error fault => trivial

/-- Nothing is left to do once an invoice is stored. -/
theorem endsWell_demand {request : StoreRequest} : EndsWell false (demand request) := by
  intro answer
  cases answer with
  | ok reply => exact fun _ => trivial
  | error fault =>
    have hnothing : Exchange.record? ⟨request, .error fault⟩ = none := by cases request <;> rfl
    rw [hnothing]
    exact fun hrecorded => nomatch hrecorded

end Service

/-! ## Accounts and the ledger -/

section Services

open Service

variable {ctx : RequestContext} {policy : InvoicingPolicy}

theorem Accounts.reads_create {request : NewAccount} : Reads (Accounts.create ctx request) := by
  refine reads_bind silent_freshId fun id => ?_
  refine reads_bind silent_now fun now => ?_
  refine reads_bind reads_ofExcept fun account => ?_
  refine reads_bind (silent_ask trivial) fun answer => ?_
  split
  · exact reads_pure
  · exact reads_throw
  · exact reads_throw

theorem Accounts.reads_change {id : AccountId}
    {edit? : Account → String → Instant → Option Account} :
    Reads (Accounts.change ctx id edit?) := by
  refine reads_bind Accounts.silent_get fun account => ?_
  refine reads_bind silent_now fun now => ?_
  split
  · exact reads_pure
  · exact reads_bind (silent_demand trivial) fun _ => reads_pure

/-- **Appending ends well**: the append is the last thing that can fail. -/
theorem Ledger.endsWell_append {t : LedgerTransaction} : EndsWell false (Ledger.append ctx t) := by
  unfold Ledger.append
  simp only
  split
  · exact endsWell_throw_bind
  refine endsWell_read_bind Accounts.silent_get fun account => ?_
  split
  · exact endsWell_throw_bind
  refine endsWell_read_bind (silent_demand trivial) fun known => ?_
  split
  · exact endsWell_throw_bind
  refine endsWell_read_bind silent_freshId fun event answer => ?_
  cases answer with
  | ok reply => exact fun _ => trivial
  | error fault => cases fault <;> exact fun hrecorded => nomatch hrecorded

theorem Ledger.endsWell_recordRideCharge {r : RideChargeRequest} :
    EndsWell false (Ledger.recordRideCharge ctx r) := by
  refine endsWell_read_bind silent_ofOutcome fun _ => ?_
  refine endsWell_read_bind (reads_bind silent_fresh fun _ => reads_pure) fun ids => ?_
  refine endsWell_read_bind silent_now fun now => ?_
  refine endsWell_read_bind silent_ofOutcome fun t => ?_
  exact endsWell_bind Ledger.endsWell_append fun _ => endsWell_pure

theorem Ledger.endsWell_recordPayment {r : PaymentRequest} :
    EndsWell false (Ledger.recordPayment ctx r) := by
  refine endsWell_read_bind silent_ofOutcome fun _ => ?_
  refine endsWell_read_bind (reads_bind silent_fresh fun _ => reads_pure) fun ids => ?_
  refine endsWell_read_bind silent_now fun now => ?_
  refine endsWell_read_bind silent_ofOutcome fun t => ?_
  exact endsWell_bind Ledger.endsWell_append fun _ => endsWell_pure

theorem Ledger.reads_balance {id : AccountId} : Reads (Ledger.balance ctx id) :=
  reads_bind Accounts.silent_get fun _ => silent_demand trivial

theorem Ledger.reads_statement {id : AccountId} {start finish : Instant} {page : PageRequest} :
    Reads (Ledger.statement ctx id start finish page) := by
  refine reads_bind silent_ofOutcome fun range => ?_
  refine reads_bind Accounts.silent_get fun account => ?_
  refine reads_bind (silent_demand trivial) fun opening => ?_
  exact reads_bind (silent_demand trivial) fun entries => silent_ofOutcome

theorem Ledger.reads_trialBalance : Reads (Ledger.trialBalance ctx) :=
  reads_bind (silent_demand trivial) fun _ => reads_lift

/-! ## Invoices -/

theorem Invoices.reads_draft {account : AccountId} {period : BillingPeriod}
    {charges payments : List LedgerEntry} {options : InvoiceOptions} :
    Reads (Invoices.draft policy ctx account period charges payments options) := by
  refine reads_bind silent_now fun now => ?_
  exact reads_bind silent_fresh fun ids => silent_ofOutcome

theorem Invoices.endsWell_persist {d : InvoiceDraft} :
    EndsWell false (Invoices.persist ctx d) :=
  endsWell_read_bind silent_freshId fun _ => endsWell_demand

theorem Invoices.endsWell_generate {id : AccountId} {period : BillingPeriod}
    {options : InvoiceOptions} :
    EndsWell false (Invoices.generate policy ctx id period options) := by
  refine endsWell_read_bind Accounts.silent_get fun account => ?_
  refine endsWell_read_bind (silent_demand trivial) fun charges => ?_
  refine endsWell_read_bind (silent_demand trivial) fun payments => ?_
  exact endsWell_read_bind Invoices.reads_draft fun d => Invoices.endsWell_persist

theorem Invoices.endsWell_generatePerRide {t : LedgerTransaction} :
    EndsWell false (Invoices.generatePerRide policy ctx t) := by
  unfold Invoices.generatePerRide
  simp only
  split
  · exact endsWell_throw_bind
  refine endsWell_read_bind Accounts.silent_get fun account => ?_
  refine endsWell_read_bind silent_ofOutcome fun period => ?_
  refine endsWell_read_bind (silent_demand trivial) fun charges => ?_
  exact endsWell_read_bind Invoices.reads_draft fun d => Invoices.endsWell_persist

/-- A sweep does not fail, whatever becomes of its invoices: by induction on the accounts. -/
theorem Invoices.endsWell_sweep {recorded : Bool} {period : BillingPeriod}
    {accounts : List Account} :
    EndsWell recorded (Invoices.sweep policy ctx period accounts) := by
  induction accounts generalizing recorded with
  | nil => exact endsWell_pure
  | cons account rest ih =>
    unfold Invoices.sweep
    simp only
    refine endsWell_bind (fun _ _ => trivial) fun cancelled => ?_
    split
    · exact endsWell_pure
    refine endsWell_bind endsWell_attempt fun result => ?_
    exact endsWell_bind ih fun _ => endsWell_pure

theorem Invoices.endsWell_generateScheduled {frequency : InvoiceFrequency} {asOf : Instant} :
    EndsWell false (Invoices.generateScheduled policy ctx frequency asOf) := by
  refine endsWell_read_bind reads_ofExcept fun period => ?_
  refine endsWell_read_bind (silent_demand trivial) fun accounts => ?_
  exact endsWell_bind Invoices.endsWell_sweep fun _ => endsWell_pure

theorem Invoices.reads_get {id : InvoiceId} : Reads (Invoices.get ctx id) := by
  refine reads_bind (silent_demand trivial) fun found => ?_
  cases found with
  | some invoice => exact reads_pure
  | none => exact reads_throw

theorem Invoices.reads_getByNumber {text : String} : Reads (Invoices.getByNumber ctx text) := by
  refine reads_bind reads_ofExcept fun number => ?_
  refine reads_bind (silent_demand trivial) fun found => ?_
  cases found with
  | some invoice => exact reads_pure
  | none => exact reads_throw

theorem Invoices.reads_list {id : AccountId} {page : PageRequest} :
    Reads (Invoices.list ctx id page) :=
  reads_bind Accounts.silent_get fun _ => silent_demand trivial

/-! ## The engine and the jobs -/

/-- What follows a committed charge does not fail. -/
theorem Engine.endsWell_afterCommit {recorded : Bool} {t : LedgerTransaction} :
    EndsWell recorded (Engine.afterCommit policy ctx t) := by
  unfold Engine.afterCommit
  split
  · exact endsWell_pure
  refine endsWell_bind endsWell_attempt fun found => ?_
  split
  · exact endsWell_pure
  split
  · exact endsWell_pure
  exact endsWell_bind endsWell_attempt fun _ => endsWell_pure

theorem Engine.reads_markDispatched {event : EventId} : Reads (Engine.markDispatched ctx event) :=
  reads_bind silent_now fun _ => silent_demand trivial

theorem Job.endsWell_ofService {recorded : Bool} {m : Service α} (h : EndsWell recorded m) :
    EndsWell recorded (Job.ofService m) :=
  Plan.EndsWell.bind h fun r _ hr => match r with
    | .ok _ => fun _ => trivial
    | .error _ => hr

theorem Job.reads_ofService {m : Service α} (h : Reads m) : Reads (Job.ofService m) :=
  Plan.Reads.bind h fun r => match r with
    | .ok _ => trivial
    | .error _ => trivial

theorem Job.reads_write {piece : OutputPiece} {wrap : String → JobError} :
    Reads (Job.write piece wrap) :=
  fun result => match result with
    | .ok _ => trivial
    | .error _ => trivial

theorem Job.reads_dispatch {event : OutboxEvent} : Reads (Job.dispatch ctx event) := by
  refine reads_bind Job.reads_write fun _ => ?_
  refine reads_bind Job.reads_write fun _ => ?_
  refine reads_bind Job.reads_write fun _ => ?_
  exact Job.reads_ofService Engine.reads_markDispatched

theorem Job.reads_dispatchAll {events : List OutboxEvent} :
    Reads (Job.dispatchAll ctx events) := by
  induction events with
  | nil => exact reads_pure
  | cons event rest ih =>
    unfold Job.dispatchAll
    refine reads_bind (Job.reads_ofService reads_cancelled) fun cancelled => ?_
    split
    · exact reads_pure
    refine reads_bind Job.reads_dispatch fun _ => ?_
    exact reads_bind ih fun _ => reads_pure

end Services

/-! ## All operations -/

/-- A computation with whether it succeeded. -/
def verdictOf (m : ExceptT ε Plan α) : Plan Bool := m.run >>= fun r => pure r.isOk

namespace Operation

/-- The plan of a call that ends with whether it succeeded. -/
def verdict (policy : InvoicingPolicy) (call : Operation) : Plan Bool :=
  call.ended policy verdictOf

/-- A call that has nothing to put on record: it reads, or it writes accounts or stamps. -/
def Unrecorded : Operation → Prop
  | .recordRideCharge .. | .recordPayment .. | .append .. | .ledgerRideCharge ..
  | .ledgerAppend .. | .generateInvoice .. | .generatePerRide .. | .generateScheduled ..
  | .runScheduled .. => False
  | _ => True

variable {policy : InvoicingPolicy} {call : Operation}

theorem reads_verdictOf {m : ExceptT ε Plan α} (h : Reads m) : (verdictOf m).Reads :=
  Plan.Reads.bind h fun _ => trivial

theorem endsWell_verdictOf {m : ExceptT ε Plan α} (h : RideLedger.EndsWell false m) :
    (verdictOf m).EndsWell (· = true) false := by
  refine Plan.EndsWell.bind h fun r later hr hlater => ?_
  cases r with
  | ok a => rfl
  | error x => exact (hr hlater).elim

/-- **Such a call puts nothing on record.** -/
theorem reads_verdict (h : call.Unrecorded) : (call.verdict policy).Reads := by
  cases call with
  | createAccount => exact reads_verdictOf Accounts.reads_create
  | getAccount => exact reads_verdictOf Accounts.silent_get
  | listAccounts => exact reads_verdictOf (Service.silent_demand trivial)
  | activate => exact reads_verdictOf Accounts.reads_change
  | deactivate => exact reads_verdictOf Accounts.reads_change
  | changeFrequency => exact reads_verdictOf Accounts.reads_change
  | balance => exact reads_verdictOf Ledger.reads_balance
  | statement => exact reads_verdictOf Ledger.reads_statement
  | trialBalance => exact reads_verdictOf Ledger.reads_trialBalance
  | getInvoice => exact reads_verdictOf Invoices.reads_get
  | invoiceByNumber => exact reads_verdictOf Invoices.reads_getByNumber
  | listInvoices => exact reads_verdictOf Invoices.reads_list
  | pendingEvents => exact reads_verdictOf (Service.silent_demand trivial)
  | markDispatched => exact reads_verdictOf Engine.reads_markDispatched
  | drainOutbox =>
    exact reads_verdictOf (reads_bind (Job.reads_ofService (Service.silent_demand trivial))
      fun _ => Job.reads_dispatchAll)
  | _ => exact h.elim

/-- **Every call ends well**: it is not told of an error once something of it is on record. -/
theorem endsWell_verdict : (call.verdict policy).EndsWell (· = true) false := by
  by_cases hreads : call.Unrecorded
  · exact (reads_verdict hreads).endsWell
  cases call with
  | recordRideCharge =>
    exact endsWell_verdictOf (endsWell_bind Ledger.endsWell_recordRideCharge fun _ =>
      Engine.endsWell_afterCommit)
  | recordPayment => exact endsWell_verdictOf Ledger.endsWell_recordPayment
  | append =>
    exact endsWell_verdictOf (endsWell_bind Ledger.endsWell_append fun _ =>
      Engine.endsWell_afterCommit)
  | ledgerRideCharge => exact endsWell_verdictOf Ledger.endsWell_recordRideCharge
  | ledgerAppend => exact endsWell_verdictOf Ledger.endsWell_append
  | generateInvoice => exact endsWell_verdictOf Invoices.endsWell_generate
  | generatePerRide => exact endsWell_verdictOf Invoices.endsWell_generatePerRide
  | generateScheduled => exact endsWell_verdictOf Invoices.endsWell_generateScheduled
  | runScheduled =>
    exact endsWell_verdictOf (endsWell_bind
      (Job.endsWell_ofService Invoices.endsWell_generateScheduled) fun _ => endsWell_pure)
  | _ => exact absurd trivial hreads

/-- A discipline does not care what becomes of a result. -/
theorem meets_verdictOf {d : Discipline} {e : Surroundings} {s : MemoryStore}
    {m : ExceptT ε Plan α} (h : (unheeded m).Meets d e Whatever s) :
    (verdictOf m).Meets d e Whatever s := by
  change (m.run.bind fun _ => pure ()).Meets d e Whatever s at h
  change (m.run.bind fun r => pure r.isOk).Meets d e Whatever s
  generalize m.run = p at h ⊢
  induction p generalizing s with
  | done a => exact fun _ _ _ => trivial
  | fail fault => exact h
  | now next ih => exact fun t ht => ih t (h t ht)
  | fresh count next ih => exact fun ids hids => ih ids (h ids hids)
  | cancelled next ih => exact fun b hb => ih b (h b hb)
  | ask request next ih =>
    intro s₁ hs₁ hl₁
    obtain ⟨hmay, hrange, hnext⟩ := h s₁ hs₁ hl₁
    exact ⟨hmay, hrange, fun b answer s₂ hb hserved => ih answer (hnext b answer s₂ hb hserved)⟩
  | write piece next ih => exact fun result => ih result (h result)

/-- Every call keeps the books, with its verdict too. -/
theorem meets_verdict {k : Bookkeeping} {e : Surroundings} {s : MemoryStore}
    (he : e.Distinct) (hcall : call.Posts k.postable) (hs : s.Filed ∧ k.holds s) :
    (call.verdict policy).Meets k.discipline e Whatever s := by
  have hmeets := call.meets policy he hcall hs
  cases call <;> exact meets_verdictOf hmeets

end Operation

/-! ## On record at the end -/

namespace System

variable {ι : Type} [DecidableEq ι] {e : ι → Surroundings} {others : StoreRequest → Prop}
  {good : α → Prop} {start σ : System ι α} {lines : List (Option ι × Exchange)} {i : ι}

/-- **Of a client that ended badly nothing is on record.** -/
theorem Transcript.nothing_of_bad (h : Transcript e others start lines σ)
    (hstart : (start.rest i).EndsWell good false) {a : α} (hend : σ.rest i = .done a)
    (hbad : ¬good a) : ∀ x ∈ exchangesOf i lines, x.record? = none := by
  have hrest : (σ.rest i).EndsWell good ((exchangesOf i lines).any (·.record?.isSome)) := by
    refine h.tracks (P := fun past p => p.EndsWell good (past.any (·.record?.isSome))) i hstart
      fun {past p s x p' s'} hp taken => ?_
    rw [List.any_append]
    have hx : x.toList.any (·.record?.isSome) = x.any (·.record?.isSome) := by
      cases x <;> simp
    rw [hx]
    exact hp.move taken
  rw [hend] at hrest
  intro x hx
  by_contra hsome
  rw [← ne_eq, Option.ne_none_iff_isSome] at hsome
  exact hbad (hrest (List.any_eq_true.2 ⟨x, hx, hsome⟩))

/-- **Of a client that only reads nothing is ever on record.** -/
theorem Transcript.nothing_of_reads (h : Transcript e others start lines σ)
    (hstart : (start.rest i).Reads) : ∀ x ∈ exchangesOf i lines, x.record? = none := by
  have hrest : (σ.rest i).Reads ∧ ∀ x ∈ exchangesOf i lines, x.record? = none := by
    refine h.tracks (P := fun past p => p.Reads ∧ ∀ x ∈ past, x.record? = none) i
      ⟨hstart, fun x hx => absurd hx List.not_mem_nil⟩ fun {past p s x p' s'} hp taken => ?_
    obtain ⟨hreads, hnone⟩ := hp.1.move taken
    refine ⟨hreads, fun y hy => ?_⟩
    rcases List.mem_append.1 hy with hy | hy
    · exact hp.2 y hy
    · exact hnone y (Option.mem_toList.1 hy)
  exact hrest.2

end System

end RideLedger
