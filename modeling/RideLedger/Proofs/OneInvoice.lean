import RideLedger.Proofs.Contest

/-!
# One invoice — no charge is billed twice

However many clients bill the charges of one account and period, and in whatever order they take
their steps, one of them gets an invoice of all the charges, and the others find the charges billed
(`Contest.OneInvoice`). A client can be stopped on the way only if a month of the tenant is used up.
With the traceability of reachable stores this is what there is to say of clients that invoice side
by side.
-/

namespace RideLedger

open MemoryStore Service

/-! ## A client writes its invoice by its last step -/

/-- The request that stores an invoice. -/
def StoreRequest.StoresInvoice (request : StoreRequest) : Prop :=
  ∃ ctx d event, request = .insertInvoice ctx d event

namespace Invoices

/-- A client that has not stored its invoice yet. -/
abbrev Unbilled : Plan (Except BillingError Invoice) → Prop :=
  Unwritten (·.StoresInvoice) fun r => ∃ i, r = .ok i

theorem silent_draft {policy : InvoicingPolicy} {ctx : RequestContext} {account : AccountId}
    {period : BillingPeriod} {charges payments : List LedgerEntry} {options : InvoiceOptions} :
    Silent (draft policy ctx account period charges payments options) :=
  silent_bind silent_now fun _ => silent_bind silent_fresh fun _ => silent_ofOutcome

/-- **Generating an invoice stores it by its last step, if at all.** -/
theorem unbilled_generate {policy : InvoicingPolicy} {ctx : RequestContext} {id : AccountId}
    {period : BillingPeriod} {options : InvoiceOptions} :
    Unbilled (generate policy ctx id period options).run := by
  refine unwritten_bind Accounts.silent_get fun account => ?_
  refine unwritten_bind (silent_demand trivial) fun charges => ?_
  refine unwritten_bind (silent_demand trivial) fun payments => ?_
  refine unwritten_bind silent_draft fun d => ?_
  refine unwritten_bind silent_freshId fun event => ?_
  exact .inr ⟨⟨_, _, _, rfl⟩, fun i => ⟨_, rfl, i, rfl⟩, fun fault => ⟨_, rfl⟩⟩

end Invoices

open Invoices (Unbilled)

/-! ## The contest is decided once -/

namespace Contest

variable {ι : Type} [DecidableEq ι] {c : Contest} {start : MemoryStore} {e : ι → Surroundings}
  {billers : ι → Biller} {σ σ' : System ι (Except BillingError Invoice)}

/-- A contest in which nobody has an invoice yet, or one client has. -/
inductive Stage (c : Contest) (start : MemoryStore)
    (σ : System ι (Except BillingError Invoice)) : Prop
  | open_ (same : Untouched start σ.store) (unbilled : ∀ i, Unbilled (σ.rest i))
  | decided (winner : ι) (invoice : Invoice) (won : σ.rest winner = .done (.ok invoice))
      (settled : c.Settled start σ.store) (unbilled : ∀ i ≠ winner, Unbilled (σ.rest i))

/-- What the clients of a contest promise. -/
abbrev Disciplined (c : Contest) (start : MemoryStore) (e : ι → Surroundings)
    (σ : System ι (Except BillingError Invoice)) : Prop :=
  σ.Disciplined (c.discipline start) e fun _ => Ends (c.Won start) (c.Lost start)

/-- **What a step of a client that has not billed can do**: it bills and is done, which takes a
store without new invoices, or it leaves such a store as it is. -/
theorem unbilled_step (hready : c.Ready start) {e : Surroundings}
    (hlive : ∀ t, e.token t → t = false) {post : Except BillingError Invoice → MemoryStore → Prop}
    {p p' : Plan (Except BillingError Invoice)} {s s' : MemoryStore} (hs : c.Holds start s)
    (hmeets : p.Meets (c.discipline start) e post s) (hp : Unbilled p)
    (taken : Plan.Step e p s p' s') :
    (Untouched start s ∧ ∃ i, p' = .done (.ok i)) ∨
      (Unbilled p' ∧ (Untouched start s → Untouched start s')) := by
  rcases hp.step taken with
    ⟨_, next, b, reply, a, rfl, ⟨ctx, d, event, rfl⟩, hb, hserved, hdone, i, rfl⟩ | ⟨hp', hstore⟩
  -- the invoice was stored: settled charges would have been in conflict
  · obtain rfl := hlive b hb
    obtain ⟨htenant, hd⟩ := (hmeets s hs (.refl s)).1
    rcases hs.stage with hsame | hsettled
    · exact .inl ⟨hsame, i, hdone⟩
    · have hconflict : ∃ text,
          s.serve false (.insertInvoice ctx d event) = .ok (.error (.conflict text), s) :=
        insertInvoice_settled hd hready.filed hready.unbilled hs hsettled htenant
      obtain ⟨text, hconflict⟩ := hconflict
      rw [hconflict] at hserved
      cases hserved
  · refine .inr ⟨hp', fun hsame => ?_⟩
    rcases hstore with rfl | ⟨request, next, b, answer, rfl, hb, hserved, hrequest⟩
    · exact hsame
    rcases hrequest with hleaves | ⟨⟨ctx, d, event, rfl⟩, fault, rfl⟩
    · obtain ⟨-, -, hbilled, hinvoices, hsequences⟩ :=
        (commit_of_serve hserved).books_eq hleaves
      exact ⟨hbilled.trans hsame.billed, hinvoices.trans hsame.invoices,
        hsequences.trans hsame.sequences⟩
    -- the invoice was refused: in a store without new ones it would not have been
    · obtain rfl := hlive b hb
      obtain ⟨htenant, hd⟩ := (hmeets s hs (.refl s)).1
      have hwritten : (∃ i s'',
          s.serve false (.insertInvoice ctx d event) = .ok (.ok i, s'') ∧ c.Won start i s'') ∨
            c.Spent start ∧ s.serve false (.insertInvoice ctx d event) = .error .sequence :=
        insertInvoice_untouched hd hready.filed hready.numbered hs hsame htenant
      rcases hwritten with ⟨i, s'', hwritten, -⟩ | ⟨-, hwritten⟩ <;>
        rw [hwritten] at hserved <;> cases hserved

/-- A request of somebody else writes no invoice. -/
theorem untouched_beside {request : StoreRequest} {b : Bool} {answer : request.Answer}
    {s s' : MemoryStore} (hbeside : c.Beside request)
    (hserved : s.serve b request = .ok (answer, s')) (h : Untouched start s) :
    Untouched start s' := by
  have hcommit := commit_of_serve hserved
  cases hcommit with
  | invoiced => exact hbeside.elim
  | halfInvoiced => exact hbeside.elim
  | _ => exact ⟨h.billed, h.invoices, h.sequences⟩

/-- What others do, a client might do as well. -/
theorem may_of_beside {request : StoreRequest} (h : c.Beside request) : c.May start request := by
  cases request with
  | insertInvoice => exact h.elim
  | _ => exact h

/-- **One step**: the contest stays open, is decided, or stays decided. -/
theorem Stage.step (hready : c.Ready start) (hlive : ∀ i, (billers i).Live c start (e i))
    (hσ : c.Disciplined start e σ) (h : c.Stage start σ)
    (taken : System.Step e c.Beside σ σ') : c.Stage start σ' := by
  have hafter := (hσ.step (fun _ hbeside _ _ => may_of_beside hbeside) taken).1
  have hl := (hσ.step (fun _ hbeside _ _ => may_of_beside hbeside) taken).2
  cases taken with
  | other allowed served =>
    cases h with
    | open_ same unbilled => exact .open_ (untouched_beside allowed served same) unbilled
    | decided winner invoice won settled unbilled =>
      exact .decided winner invoice won (settled.later hl) unbilled
  | @client p s i taken =>
    cases h with
    | open_ same unbilled =>
      rcases unbilled_step hready (hlive i).token hσ.inv (hσ.meets i) (unbilled i) taken with
        ⟨-, invoice, rfl⟩ | ⟨hp, hsame⟩
      · have hwon : (⟨s, Function.update σ.rest i (.done (.ok invoice))⟩ :
            System ι (Except BillingError Invoice)).rest i = .done (.ok invoice) :=
          Function.update_self ..
        have hsettled : c.Settled start s := (hafter.done hwon).settled
        refine .decided i invoice hwon hsettled fun j hj => ?_
        simpa [hj] using unbilled j
      · refine .open_ (hsame same) ?_
        rw [Function.forall_update_iff σ.rest fun _ q => Unbilled q]
        exact ⟨hp, fun j _ => unbilled j⟩
    | decided winner invoice won settled unbilled =>
      by_cases hi : i = winner
      · -- the winner is done and takes no step
        subst hi
        rw [won] at taken
        cases taken
      · rcases unbilled_step hready (hlive i).token hσ.inv (hσ.meets i) (unbilled i hi) taken with
          ⟨hsame, -⟩ | ⟨hp, -⟩
        · exact absurd settled (hsame.not_settled hready.unbilled)
        · refine .decided winner invoice ?_ (settled.later hl) ?_
          · exact (Function.update_of_ne (Ne.symm hi) ..).trans won
          · rw [Function.forall_update_iff σ.rest fun j q => j ≠ winner → Unbilled q]
            exact ⟨fun _ => hp, fun j _ => unbilled j⟩

/-- **A whole run**: by induction on its steps. -/
theorem Stage.run (hready : c.Ready start) (hlive : ∀ i, (billers i).Live c start (e i))
    (hσ : c.Disciplined start e σ) (h : c.Stage start σ)
    (run : System.Run e c.Beside σ σ') : c.Stage start σ' := by
  induction run with
  | refl => exact h
  | tail before taken ih =>
    have hmid := (System.Run.disciplined before (fun _ hb _ _ => may_of_beside hb) hσ).1
    exact ih.step hready hlive hmid taken

/-! ## What a contest comes to -/

/-- Clients that bill the same charges, of a store that clients brought about. -/
structure Competing (c : Contest) (billers : ι → Biller) (e : ι → Surroundings)
    (start : MemoryStore) : Prop where
  reachable : start.Reachable fun _ => True
  roomy : Roomy (start.tenantEntries c.tenant)
  account : ∃ a, start.account? c.tenant c.account = some a
  unbilled : c.charges start ≠ []
  live : ∀ i, (billers i).Live c start (e i)

/-- What clients that bill the same charges come to, after any of their steps. -/
structure OneInvoice (c : Contest) (e : ι → Surroundings) (start : MemoryStore)
    (σ : System ι (Except BillingError Invoice)) : Prop where
  /-- No client's arithmetic runs out of range, unless it may be out of numbers. -/
  inRange : ∀ i fault, σ.rest i = .fail fault → c.Spent start
  /-- A client that is done has an invoice of all the charges, which is stored, or finds them
  billed. -/
  outcome : ∀ i r, σ.rest i = .done r →
    (∃ invoice, r = .ok invoice ∧ c.Won start invoice σ.store) ∨
      ∃ x, r = .error x ∧ c.Lost start x σ.store
  /-- As soon as a client is done, exactly one has its invoice. -/
  one : (∃ i r, σ.rest i = .done r) → ∃! i, ∃ invoice, σ.rest i = .done (.ok invoice)
  /-- Any clients can come to their end from here, while no month is used up. -/
  finishes : ¬c.Spent start → (∀ i, (e i).Answers) → ∀ clients : List ι,
    ∃ σ', System.Run e c.Beside σ σ' ∧ ∀ i ∈ clients, ∃ r, σ'.rest i = .done r

omit [DecidableEq ι] in
/-- A reachable store is ready for a contest. -/
theorem Competing.ready (h : c.Competing billers e start) : c.Ready start := by
  obtain ⟨hfiled, -, hnumbered⟩ := h.reachable.invoicing
  exact
    { filed := hfiled, numbered := hnumbered, roomy := h.roomy, account := h.account
      unbilled := h.unbilled }

/-- **A contest has one invoice**, in whatever order the clients take their steps. -/
theorem Competing.oneInvoice (h : c.Competing billers e start)
    (run : System.Run e c.Beside ⟨start, fun i => (billers i).plan c⟩ σ) :
    c.OneInvoice e start σ := by
  have hready := h.ready
  have hholds : c.Holds start start :=
    { later := .refl start, account := h.account, own := rfl, stage := .inl ⟨rfl, rfl, rfl⟩ }
  have hstart : c.Disciplined start e ⟨start, fun i => (billers i).plan c⟩ :=
    { inv := hholds, meets := fun i => bills_generate hready (h.live i) hholds }
  have hothers : ∀ request, c.Beside request → ∀ s, c.Holds start s → c.May start request :=
    fun _ hbeside _ _ => may_of_beside hbeside
  have hσ := (System.Run.disciplined run hothers hstart).1
  have hstage : c.Stage start σ :=
    Stage.run hready h.live hstart
      (.open_ ⟨rfl, rfl, rfl⟩ fun i => Invoices.unbilled_generate) run
  have houtcome : ∀ i r, σ.rest i = .done r →
      (∃ invoice, r = .ok invoice ∧ c.Won start invoice σ.store) ∨
        ∃ x, r = .error x ∧ c.Lost start x σ.store := by
    intro i r hi
    have hdone := hσ.done hi
    cases r with
    | ok invoice => exact .inl ⟨invoice, rfl, hdone⟩
    | error x => exact .inr ⟨x, rfl, hdone⟩
  refine
    { inRange := fun i fault hi => ?_, outcome := houtcome, one := fun ⟨i, r, hi⟩ => ?_
      finishes := fun hspent hanswers clients => hσ.finishes hothers hspent hanswers clients }
  · have hmeets := hσ.meets i
    rw [hi] at hmeets
    exact hmeets
  · cases hstage with
    | open_ same unbilled =>
      -- whoever is done found the charges billed, one way or the other
      refine absurd ?_ (same.not_settled hready.unbilled)
      rcases houtcome i r hi with ⟨invoice, -, hwon⟩ | ⟨x, -, hlost⟩
      · exact hwon.settled
      · exact hlost.settled
    | decided winner invoice won settled unbilled =>
      refine ⟨winner, ⟨invoice, won⟩, fun j ⟨invoice', hj⟩ => ?_⟩
      by_contra hne
      have hunbilled := unbilled j hne
      rw [hj] at hunbilled
      obtain ⟨x, hx⟩ := hunbilled
      cases hx

end Contest

/-- **Side by side, no charge is billed twice, and every line can be traced**: in every reachable
store markers, invoices and entries agree, and clients that bill the same charges get one invoice
of them. -/
theorem traceable_and_oneInvoice :
    (∀ s : MemoryStore, (s.Reachable fun _ => True) → s.Traceable) ∧
    ∀ {ι : Type} [DecidableEq ι] {c : Contest} {billers : ι → Biller} {e : ι → Surroundings}
      {start : MemoryStore} {σ : System ι (Except BillingError Invoice)},
      c.Competing billers e start →
      System.Run e c.Beside ⟨start, fun i => (billers i).plan c⟩ σ → c.OneInvoice e start σ :=
  ⟨fun _ h => h.traceable, fun h run => h.oneInvoice run⟩

/-! ## A contest for one ride -/

/-- The week of the first ride. -/
def firstWeek : Contest :=
  { tenant := Sample.tenant, account := firstAccount, period := Sample.firstWeekOfMarch }

/-- Two clients that bill it. -/
def billers (_ : Bool) : Biller :=
  { policy := .default, ctx := Sample.operator, options := .default }

/-- The store after the first ride, on its own. -/
def beforeBilling : Quiet := ⟨Sample.epoch, .start, storeAfter firstCalls⟩

/-- The clients take turns: each has its draft before one of them is stored. -/
def billing : Quiet × (Bool → Plan (Except BillingError Invoice)) :=
  beforeBilling.play (fun i => (billers i).plan firstWeek)
    [true, false, true, false, true, false, true, false, true, false, true, false, true, false]

/-- The call of one of them alone. -/
def billingCall : Operation :=
  .generateInvoice Sample.operator firstAccount Sample.firstWeekOfMarch .default

/-- The first client has the invoice, and the second is in conflict; and what a client leaves
behind that bills alone is traceable. -/
theorem traceable_and_oneInvoice_firstWeek :
    (storeAfter (firstCalls ++ [billingCall])).invoices.size = 1 ∧
    (storeAfter (firstCalls ++ [billingCall])).Traceable ∧
    firstWeek.Competing billers (fun _ => .still beforeBilling.now) beforeBilling.store ∧
    ¬firstWeek.Spent beforeBilling.store ∧
    firstWeek.OneInvoice (fun _ => .still beforeBilling.now) beforeBilling.store
      ⟨billing.1.store, billing.2⟩ ∧
    (match billing.2 true, billing.2 false with
      | .done (.ok _), .done (.error (.conflict _)) => true
      | _, _ => false) = true := by
  have hreachable (postable : LedgerTransaction → Prop) :
      (storeAfter firstCalls).Reachable postable :=
    reachable_storeAfter (by simp [firstCalls, Operation.Posts])
  have hafter : (storeAfter (firstCalls ++ [billingCall])).Reachable fun _ => True :=
    reachable_storeAfter (by simp [firstCalls, billingCall, Operation.Posts])
  have hnone : (storeAfter firstCalls).invoices.keys = [] := by decide +kernel
  have hspent : ¬firstWeek.Spent beforeBilling.store := by
    have hsequences : (storeAfter firstCalls).sequences = [] := by decide +kernel
    rintro ⟨ctx, month, -, hused⟩
    rw [UsedUp, lastSequence, counter, beforeBilling, hsequences] at hused
    cases hused
  have hlive (i : Bool) :
      (billers i).Live firstWeek beforeBilling.store (.still beforeBilling.now) :=
    { tenant := rfl, token := fun _ h => h
      fresh := fun _ _ _ hmem => absurd (hnone ▸ hmem) List.not_mem_nil
      due := fun now hnow => by
        obtain rfl := hnow
        have hdue :
            (((billers true).issueDate Sample.epoch).addDays? (billers true).terms).isSome := by
          decide +kernel
        exact Option.isSome_iff_exists.1 hdue }
  have hcompeting : firstWeek.Competing billers (fun _ => .still beforeBilling.now)
      beforeBilling.store :=
    { reachable := hreachable _
      roomy := by
        obtain ⟨-, journal, hjournal⟩ := (hreachable LedgerTransaction.Built).journaled
        exact hjournal.roomy (by decide +kernel)
      account := by
        have haccount : ((storeAfter firstCalls).account? Sample.tenant firstAccount).isSome := by
          decide +kernel
        exact Option.isSome_iff_exists.1 haccount
      unbilled := by decide +kernel
      live := hlive }
  have hrun : System.Run (fun _ => .still beforeBilling.now) firstWeek.Beside
      ⟨beforeBilling.store, fun i => (billers i).plan firstWeek⟩ ⟨billing.1.store, billing.2⟩ :=
    beforeBilling.run_play (fun i => (billers i).plan firstWeek) _
  exact ⟨by decide +kernel, traceable_and_oneInvoice.1 _ hafter, hcompeting, hspent,
    traceable_and_oneInvoice.2 hcompeting hrun, by decide +kernel⟩

end RideLedger
