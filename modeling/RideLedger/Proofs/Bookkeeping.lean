import RideLedger.Proofs.Discipline
import RideLedger.Proofs.Drafting
import RideLedger.Proofs.Filing
import RideLedger.Service.Invoices
import RideLedger.Service.Ledger

/-!
# Bookkeeping — the discipline of the billing operations

Every billing operation asks the store for transactions that may be posted, for drafts that are
drawn from the store, and for nothing else that would touch the books. A `Bookkeeping` says which
transactions may be posted and what such requests keep of the store; its discipline adds that
everything stays filed and nothing is taken away. The rules of this file carry the discipline
through the services, and `Ledger` and `Invoices` follow it.
-/

namespace RideLedger

/-- A request that posts no transaction other than the given ones, and stores no draft that the
store does not bear out. -/
def StoreRequest.Sound (postable : LedgerTransaction → Prop) (s : MemoryStore) :
    StoreRequest → Prop
  | .appendTransaction _ t _ => postable t
  | .insertInvoice _ d _ => d.DrawnFrom s
  | _ => True

/-- What services post: the ledger account they debit, the one they credit, and the source. -/
inductive PostingShape : LedgerAccount → LedgerAccount → SourceType → Prop
  /-- A ride: its amount is owed, and earned. -/
  | ride : PostingShape .accountsReceivable .serviceRevenue .rideCharge
  /-- A payment: its amount is received, and no longer owed. -/
  | payment : PostingShape .cash .accountsReceivable .payment

/-- A condition on the store that sound requests keep. -/
structure Bookkeeping where
  /-- The transactions that may be posted. -/
  postable : LedgerTransaction → Prop
  /-- What holds of the store. -/
  holds : MemoryStore → Prop
  /-- A ride or a payment under two identifiers may be posted. -/
  posts : ∀ {ids debited credited amount source t},
    PostingShape debited credited source.sourceType → ids.debit ≠ ids.credit →
    (LedgerTransaction.post ids debited credited amount source).Gives t → postable t
  kept : ∀ {cancelled s request s'}, s.Filed → holds s → request.Sound postable s →
    MemoryStore.Commit cancelled s request s' → holds s'

namespace Bookkeeping

/-- The discipline of a bookkeeping. -/
def discipline (k : Bookkeeping) : Discipline where
  inv s := s.Filed ∧ k.holds s
  later := MemoryStore.Extends
  may s request := request.Sound k.postable s
  mayFail := True
  refl := .refl
  trans := .trans
  kept := by
    rintro s request b answer s' ⟨hfiled, hholds⟩ hsound hserved
    have hcommit := MemoryStore.commit_of_serve hserved
    exact ⟨⟨hcommit.filed hfiled, k.kept hfiled hholds hsound hcommit⟩, hcommit.extends⟩

end Bookkeeping

variable {α β ε : Type} {k : Bookkeeping} {e : Surroundings} {s : MemoryStore}

/-- A computation keeps the books, and its result satisfies `ok` from then on. -/
def Keeps (k : Bookkeeping) (e : Surroundings) (ok : α → MemoryStore → Prop)
    (m : ExceptT ε Plan α) (s : MemoryStore) : Prop :=
  s.Filed ∧ k.holds s → m.run.Meets k.discipline e (Ends ok Whatever) s

section Rules

variable {ok : α → MemoryStore → Prop} {ok' : β → MemoryStore → Prop} {m : ExceptT ε Plan α}

theorem keeps_pure {a : α} (h : ∀ s', s.Extends s' → ok a s') :
    Keeps k e ok (pure a : ExceptT ε Plan α) s :=
  fun _ => meets_pure fun s' _ hl => h s' hl

/-- A computation that ends in an error promises nothing. -/
theorem keeps_throw {x : ε} : Keeps k e ok (throw x : ExceptT ε Plan α) s :=
  fun _ => meets_throw fun _ _ _ => trivial

theorem keeps_throw_bind {x : ε} {f : α → ExceptT ε Plan β} :
    Keeps k e ok' (throw x >>= f) s :=
  fun _ => meets_throw fun _ _ _ => trivial

theorem keeps_bind {f : α → ExceptT ε Plan β} (hm : Keeps k e ok m s)
    (hf : ∀ a s', s.Extends s' → ok a s' → Keeps k e ok' (f a) s') :
    Keeps k e ok' (m >>= f) s :=
  fun hs => meets_bind hs (hm hs) (fun a s' hs' hl hok => hf a s' hl hok hs') fun _ _ _ => trivial

/-- A promise that follows from another one. -/
theorem Keeps.mono {weaker : α → MemoryStore → Prop} (h : Keeps k e ok m s)
    (hok : ∀ a s', s.Extends s' → ok a s' → weaker a s') : Keeps k e weaker m s :=
  fun hs => (h hs).mono hs fun r s' _ hl hr => match r with
    | .ok a => hok a s' hl hr
    | .error _ => hr

theorem Keeps.whatever (h : Keeps k e ok m s) : Keeps k e Whatever m s :=
  h.mono fun _ _ _ _ => trivial

/-- A computation whose result is taken as a value. -/
theorem keeps_attempt {m : Service α} (h : Keeps k e ok m s) :
    Keeps k e Whatever m.attempt s :=
  fun hs => Plan.Meets.bind hs (h hs) fun _ _ _ _ _ => meets_pure fun _ _ _ => trivial

/-- A computation whose result is not used. -/
theorem keeps_discard (h : Keeps k e ok m s) (hs : s.Filed ∧ k.holds s) :
    (m.run >>= fun _ => pure ()).Meets k.discipline e Whatever s :=
  Plan.Meets.bind hs (h hs) fun _ _ _ _ _ => Plan.Meets.pure fun _ _ _ => trivial

end Rules

/-! ## Single steps -/

section Steps

variable {request : StoreRequest}

/-- A sound request. -/
theorem keeps_ask (hsound : ∀ s', s.Extends s' → request.Sound k.postable s') :
    Keeps k e (Answered k.discipline e request) (Service.ask request) s :=
  fun _ => meets_ask (fun s' _ hl => hsound s' hl) fun _ _ _ _ _ _ => trivial

/-- A sound request, if it does not fail. -/
theorem keeps_demand (hsound : ∀ s', s.Extends s' → request.Sound k.postable s') :
    Keeps k e (fun reply => Answered k.discipline e request (.ok reply)) (Service.demand request)
      s :=
  fun hs => meets_demand hs (fun s' _ hl => hsound s' hl) (fun _ _ _ _ _ _ => trivial)
    fun _ _ _ => trivial

theorem keeps_now : Keeps k e Whatever Service.now s :=
  fun _ _ _ _ _ _ => trivial

/-- Fresh identifiers are such as the surroundings give out. -/
theorem keeps_fresh {count : Nat} :
    Keeps k e (fun ids _ => e.draw count ids) (Service.fresh count) s :=
  fun _ _ hids _ _ _ => hids

theorem keeps_freshId : Keeps k e Whatever Service.freshId s :=
  keeps_bind keeps_fresh fun _ _ _ _ => keeps_pure fun _ _ => trivial

theorem keeps_cancelled : Keeps k e Whatever Service.cancelled s :=
  fun _ _ _ _ _ _ => trivial

/-- A computation without steps promises what it gives. -/
theorem keeps_ofOutcome {o : Outcome α} :
    Keeps k e (fun a _ => o.Gives a) (Service.ofOutcome o) s := by
  intro _
  change Plan.Meets _ _ _ (liftM o.run) s
  cases ho : o.run with
  | error fault => trivial
  | ok r =>
    cases r with
    | ok a => exact fun _ _ _ => ho
    | error x => exact fun _ _ _ => trivial

theorem keeps_ofExcept {r : Except BillingError α} :
    Keeps k e Whatever (Service.ofExcept r) s := by
  intro _
  cases r with
  | ok a => exact fun _ _ _ => trivial
  | error x => exact fun _ _ _ => trivial

theorem keeps_lift {r : Except RangeFault α} :
    Keeps k e Whatever (Service.step (liftM r)) s := by
  intro _
  cases r with
  | ok a => exact fun _ _ _ => trivial
  | error fault => trivial

end Steps

/-! ## Accounts and the ledger -/

section Services

variable {ctx : RequestContext}

theorem Accounts.keeps_get {id : AccountId} : Keeps k e Whatever (Accounts.get ctx id) s := by
  refine keeps_bind (keeps_demand fun _ _ => trivial) fun found s' _ _ => ?_
  cases found with
  | some account => exact keeps_pure fun _ _ => trivial
  | none => exact keeps_throw

theorem Accounts.keeps_create {request : NewAccount} :
    Keeps k e Whatever (Accounts.create ctx request) s := by
  refine keeps_bind keeps_freshId fun id s₁ _ _ => ?_
  refine keeps_bind keeps_now fun now s₂ _ _ => ?_
  refine keeps_bind keeps_ofExcept fun account s₃ _ _ => ?_
  refine keeps_bind (keeps_ask fun _ _ => trivial) fun answer s₄ _ _ => ?_
  split
  · exact keeps_pure fun _ _ => trivial
  · exact keeps_throw
  · exact keeps_throw

theorem Accounts.keeps_change {id : AccountId}
    {edit? : Account → String → Instant → Option Account} :
    Keeps k e Whatever (Accounts.change ctx id edit?) s := by
  refine keeps_bind Accounts.keeps_get fun account s₁ _ _ => ?_
  refine keeps_bind keeps_now fun now s₂ _ _ => ?_
  split
  · exact keeps_pure fun _ _ => trivial
  · exact keeps_bind (keeps_demand fun _ _ => trivial) fun _ _ _ _ => keeps_pure fun _ _ => trivial

/-- **Appending keeps the books if the transaction may be posted.** -/
theorem Ledger.keeps_append {t : LedgerTransaction} (ht : k.postable t) :
    Keeps k e Whatever (Ledger.append ctx t) s := by
  unfold Ledger.append
  simp only
  split
  · exact keeps_throw_bind
  refine keeps_bind Accounts.keeps_get fun account s₁ _ _ => ?_
  split
  · exact keeps_throw_bind
  refine keeps_bind (keeps_demand fun _ _ => trivial) fun recorded s₂ _ _ => ?_
  split
  · exact keeps_throw_bind
  refine keeps_bind keeps_freshId fun event s₃ _ _ => ?_
  refine keeps_bind (keeps_ask fun _ _ => ht) fun answer s₄ _ _ => ?_
  split
  · exact keeps_pure fun _ _ => trivial
  · exact keeps_throw
  · exact keeps_throw
  · exact keeps_throw

/-- The identifiers of a transaction's entries differ where draws do. -/
theorem Ledger.keeps_freshIds (he : e.Distinct) :
    Keeps k e (fun ids _ => ids.debit ≠ ids.credit) Ledger.freshIds s := by
  refine keeps_bind keeps_fresh fun ids s₁ _ hids => keeps_pure fun _ _ heq => ?_
  have hplaces : (0 : Nat) = 1 := he hids (by decide) (by decide) (by decide)
    (congrArg Id.uuid heq)
  exact absurd hplaces (by decide)

theorem Ledger.keeps_recordRideCharge (he : e.Distinct) {r : RideChargeRequest} :
    Keeps k e Whatever (Ledger.recordRideCharge ctx r) s := by
  refine keeps_bind keeps_ofOutcome fun _ s₁ _ _ => ?_
  refine keeps_bind (Ledger.keeps_freshIds he) fun ids s₂ _ hids => ?_
  refine keeps_bind keeps_now fun now s₃ _ _ => ?_
  refine keeps_bind keeps_ofOutcome fun t s₄ _ ht => ?_
  exact keeps_bind (Ledger.keeps_append (k.posts .ride hids ht)) fun _ _ _ _ =>
    keeps_pure fun _ _ => trivial

theorem Ledger.keeps_recordPayment (he : e.Distinct) {r : PaymentRequest} :
    Keeps k e Whatever (Ledger.recordPayment ctx r) s := by
  refine keeps_bind keeps_ofOutcome fun _ s₁ _ _ => ?_
  refine keeps_bind (Ledger.keeps_freshIds he) fun ids s₂ _ hids => ?_
  refine keeps_bind keeps_now fun now s₃ _ _ => ?_
  refine keeps_bind keeps_ofOutcome fun t s₄ _ ht => ?_
  exact keeps_bind (Ledger.keeps_append (k.posts .payment hids ht)) fun _ _ _ _ =>
    keeps_pure fun _ _ => trivial

theorem Ledger.keeps_balance {id : AccountId} : Keeps k e Whatever (Ledger.balance ctx id) s :=
  keeps_bind Accounts.keeps_get fun _ _ _ _ => Keeps.whatever (keeps_demand fun _ _ => trivial)

theorem Ledger.keeps_statement {id : AccountId} {start finish : Instant} {page : PageRequest} :
    Keeps k e Whatever (Ledger.statement ctx id start finish page) s := by
  refine keeps_bind keeps_ofOutcome fun range s₁ _ _ => ?_
  refine keeps_bind Accounts.keeps_get fun account s₂ _ _ => ?_
  refine keeps_bind (keeps_demand fun _ _ => trivial) fun opening s₃ _ _ => ?_
  refine keeps_bind (keeps_demand fun _ _ => trivial) fun entries s₄ _ _ => ?_
  exact keeps_ofOutcome.whatever

theorem Ledger.keeps_trialBalance : Keeps k e Whatever (Ledger.trialBalance ctx) s := by
  refine keeps_bind (keeps_demand fun _ _ => trivial) fun totals s₁ _ _ => ?_
  exact keeps_lift

/-! ## Invoices -/

/-- Unbilled charges are entries of every later store. -/
theorem stored_of_unbilled {account : AccountId} {period : BillingPeriod}
    {charges : List LedgerEntry}
    (h : Answered k.discipline e (.unbilledCharges ctx account period) (.ok charges) s) :
    ∀ charge ∈ charges, s.entries.get? charge.id = some charge := by
  obtain ⟨b, before, after, -, ⟨hfiled, -⟩, hserved, hl⟩ := h
  obtain ⟨rfl, rfl⟩ : before.unbilledCharges ctx account period = charges ∧ before = after := by
    simpa [MemoryStore.serve] using hserved
  intro charge hcharge
  have hvalue : charge ∈ before.entries.values := by
    have hmem := (List.mergeSort_perm ..).mem_iff.1 hcharge
    exact List.mem_of_mem_filter (List.mem_of_mem_filter (List.mem_of_mem_filter hmem))
  exact WriteOnce.get?_of_prefix hl.entries (hfiled.get?_eq_some_iff.2 ⟨hvalue, rfl⟩)

/-- **A draft of stored charges is drawn from the store.** -/
theorem Invoices.keeps_draft {policy : InvoicingPolicy} {account : AccountId}
    {period : BillingPeriod} {charges payments : List LedgerEntry} {options : InvoiceOptions}
    (hstored : ∀ charge ∈ charges, s.entries.get? charge.id = some charge) :
    Keeps k e (fun d s' => d.DrawnFrom s')
      (Invoices.draft policy ctx account period charges payments options) s := by
  refine keeps_bind keeps_now fun now s₁ hl₁ _ => ?_
  refine keeps_bind keeps_fresh fun ids s₂ hl₂ _ => ?_
  refine keeps_ofOutcome.mono fun d s₃ hl₃ hd => ?_
  exact (InvoiceDraft.drawnFrom_of_assemble hd fun charge hcharge =>
    WriteOnce.get?_of_prefix (hl₁.trans (hl₂.trans hl₃)).entries (hstored charge hcharge)).1

/-- A draft that is drawn from the store can be stored. -/
theorem Invoices.keeps_persist {d : InvoiceDraft} (hd : d.DrawnFrom s) :
    Keeps k e Whatever (Invoices.persist ctx d) s := by
  refine keeps_bind keeps_freshId fun event s₁ hl₁ _ => ?_
  exact Keeps.whatever (keeps_demand fun _ hl => hd.later (hl₁.trans hl))

theorem Invoices.keeps_generate {policy : InvoicingPolicy} {id : AccountId}
    {period : BillingPeriod} {options : InvoiceOptions} :
    Keeps k e Whatever (Invoices.generate policy ctx id period options) s := by
  refine keeps_bind Accounts.keeps_get fun account s₁ _ _ => ?_
  refine keeps_bind (keeps_demand fun _ _ => trivial) fun charges s₂ _ hcharges => ?_
  refine keeps_bind (keeps_demand fun _ _ => trivial) fun payments s₃ hl₃ _ => ?_
  have hstored : ∀ charge ∈ charges, s₃.entries.get? charge.id = some charge :=
    fun charge hcharge =>
      WriteOnce.get?_of_prefix hl₃.entries (stored_of_unbilled hcharges charge hcharge)
  exact keeps_bind (keeps_draft hstored) fun d s₄ _ hd => keeps_persist hd

theorem Invoices.keeps_generatePerRide {policy : InvoicingPolicy} {t : LedgerTransaction} :
    Keeps k e Whatever (Invoices.generatePerRide policy ctx t) s := by
  unfold Invoices.generatePerRide
  simp only
  split
  · exact keeps_throw_bind
  refine keeps_bind Accounts.keeps_get fun account s₁ _ _ => ?_
  refine keeps_bind keeps_ofOutcome fun period s₂ _ _ => ?_
  refine keeps_bind (keeps_demand fun _ _ => trivial) fun charges s₃ _ hcharges => ?_
  have hstored : ∀ charge ∈ charges.filter (·.id = t.debit.id),
      s₃.entries.get? charge.id = some charge :=
    fun charge hcharge =>
      stored_of_unbilled hcharges charge (List.mem_of_mem_filter hcharge)
  exact keeps_bind (keeps_draft hstored) fun d s₄ _ hd => keeps_persist hd

/-- A sweep keeps the books whatever becomes of each of its invoices: by induction on the
accounts. -/
theorem Invoices.keeps_sweep {policy : InvoicingPolicy} {period : BillingPeriod}
    {accounts : List Account} :
    Keeps k e Whatever (Invoices.sweep policy ctx period accounts) s := by
  induction accounts generalizing s with
  | nil => exact keeps_pure fun _ _ => trivial
  | cons account rest ih =>
    unfold Invoices.sweep
    simp only
    refine keeps_bind keeps_cancelled fun cancelled s₁ _ _ => ?_
    split
    · exact keeps_pure fun _ _ => trivial
    refine keeps_bind (keeps_attempt keeps_generate) fun result s₂ _ _ => ?_
    exact keeps_bind ih fun _ _ _ _ => keeps_pure fun _ _ => trivial

theorem Invoices.keeps_generateScheduled {policy : InvoicingPolicy}
    {frequency : InvoiceFrequency} {asOf : Instant} :
    Keeps k e Whatever (Invoices.generateScheduled policy ctx frequency asOf) s := by
  refine keeps_bind keeps_ofExcept fun period s₁ _ _ => ?_
  refine keeps_bind (keeps_demand fun _ _ => trivial) fun accounts s₂ _ _ => ?_
  exact keeps_bind keeps_sweep fun _ _ _ _ => keeps_pure fun _ _ => trivial

theorem Invoices.keeps_get {id : InvoiceId} : Keeps k e Whatever (Invoices.get ctx id) s := by
  refine keeps_bind (keeps_demand fun _ _ => trivial) fun found s₁ _ _ => ?_
  cases found with
  | some invoice => exact keeps_pure fun _ _ => trivial
  | none => exact keeps_throw

theorem Invoices.keeps_getByNumber {text : String} :
    Keeps k e Whatever (Invoices.getByNumber ctx text) s := by
  refine keeps_bind keeps_ofExcept fun number s₁ _ _ => ?_
  refine keeps_bind (keeps_demand fun _ _ => trivial) fun found s₂ _ _ => ?_
  cases found with
  | some invoice => exact keeps_pure fun _ _ => trivial
  | none => exact keeps_throw

theorem Invoices.keeps_list {id : AccountId} {page : PageRequest} :
    Keeps k e Whatever (Invoices.list ctx id page) s :=
  keeps_bind Accounts.keeps_get fun _ _ _ _ => Keeps.whatever (keeps_demand fun _ _ => trivial)

end Services

end RideLedger
