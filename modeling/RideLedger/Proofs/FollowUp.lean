import RideLedger.Proofs.PerRide

/-!
# The follow-up — what the invoice of a ride adds to its charge

The engine posts a transaction as the ledger service does, and then sees to its invoice. The second
part may fail in many ways: the entries of the transaction may be unusual, the day may be the last
one, the due date may be out of range, the identifier may be taken, the request may be cancelled
between the two writes. None of them costs the charge (`ChargeCall.exists_followUp`): the call comes
to a result exactly if posting alone does, and whatever becomes of the invoice, the accounts, the
entries, the keys and the events of the ledger are those that posting alone leaves behind. Only to
count on in a month whose numbers are used up is a fault, and no result.

What there is more is an invoice of one line for the debit of the transaction, or nothing
(`OwnInvoice`), and the charges of others stay to be billed.
-/

namespace RideLedger

open MemoryStore

variable {token : Quiet → Bool} {policy : InvoicingPolicy} {ctx : RequestContext}
  {t : LedgerTransaction} {w : Quiet}

/-! ## Two ways to post -/

/-- A call that posts: it makes the transaction up from a ride, or is handed it. -/
inductive ChargeCall
  | ride (r : RideChargeRequest)
  | transaction (t : LedgerTransaction)

namespace ChargeCall

/-- Posting alone, by the ledger service. -/
def alone (ctx : RequestContext) : ChargeCall → Service LedgerTransaction
  | ride r => Ledger.recordRideCharge ctx r
  | transaction t => do
    let _ ← Ledger.append ctx t
    return t

/-- Posting by the engine, which sees to the invoice. -/
def byEngine (policy : InvoicingPolicy) (ctx : RequestContext) :
    ChargeCall → Service RecordedCharge
  | ride r => Engine.recordRideCharge policy ctx r
  | transaction t => Engine.append policy ctx t

/-- **The engine posts as the ledger service does**: an error is that of posting alone, and after a
posting it does, from there, what follows a posting. -/
theorem exists_alone (token : Quiet → Bool) (policy : InvoicingPolicy) (ctx : RequestContext)
    (call : ChargeCall) (hbooks : w.store.Filed ∧ w.store.Traced ∧ w.store.Numbered) :
    ∃ result w₁, RunsAttended token (call.alone ctx) w result w₁ ∧
      (∀ x, result = .error x → RunsAttended token (call.byEngine policy ctx) w (.error x) w₁) ∧
      ∀ t, result = .ok t → w₁.store.JustPosted ctx t ∧
        (call.byEngine policy ctx).run.run (Quiet.attended token) w =
          (Engine.afterCommit policy ctx t).run.run (Quiet.attended token) w₁ := by
  obtain ⟨hfiled, htraced, hnumbered⟩ := hbooks
  cases call with
  | ride r =>
    obtain ⟨result, w₁, hruns, hrecorded⟩ := exists_recorded token ctx r w
    cases hrecorded with
    | refused same =>
      refine ⟨_, w₁, hruns, fun x hx => ?_, fun _ ht => nomatch ht⟩
      obtain rfl := Except.error.inj hx
      exact runsAttended_bind_error hruns
    | posted built admits =>
      refine ⟨_, _, hruns, fun _ hx => (nomatch hx), fun t' ht => ?_⟩
      obtain rfl := Except.ok.inj ht
      exact ⟨justPosted hfiled htraced hnumbered built.doubleEntry.2 admits,
        run_bind_of_ok hruns⟩
  | transaction t =>
    obtain ⟨result, w₁, hruns, -, hposted⟩ := Ledger.exists_append token ctx t w
    cases result with
    | error x =>
      refine ⟨.error x, w₁, runsAttended_bind_error hruns, fun x' hx => ?_, fun _ ht => nomatch ht⟩
      obtain rfl := Except.error.inj hx
      exact runsAttended_bind_error hruns
    | ok id =>
      obtain ⟨-, hne, hadmits, rfl⟩ := hposted id rfl
      refine ⟨.ok t, _, runsAttended_bind hruns runsAttended_pure, fun _ hx => (nomatch hx),
        fun t' ht => ?_⟩
      obtain rfl := Except.ok.inj ht
      exact ⟨justPosted hfiled htraced hnumbered hne hadmits, run_bind_of_ok hruns⟩

end ChargeCall

/-! ## The invoice of a transaction -/

/-- **An invoice of a transaction and of nothing else**, and that it is all that is added to a
store. -/
structure OwnInvoice (ctx : RequestContext) (t : LedgerTransaction) (i : Invoice)
    (s s' : MemoryStore) : Prop where
  added : ∃ sequence event, s' = s.invoiced ctx sequence i event
  new : i ∉ s.invoices.values
  origin : i.tenant = ctx.tenant ∧ i.account = t.account
  line : ∃ l, i.lines = [l] ∧ l.entry = t.debit.id ∧ l.amount = t.amount
  subtotal : i.subtotal = t.amount
  payments : i.paymentsApplied = Money.zero
  outstanding : i.outstanding = t.amount
  /-- The period is the day on which the transaction was created. -/
  period : i.period.start = t.createdAt.date ∧ i.period.start.addDays? 1 = some i.period.finish
  /-- Whoever asks for charges to bill is told of all others. -/
  others : ∀ (other : RequestContext) (account : AccountId) (period : BillingPeriod)
    (e : LedgerEntry), e ∈ s'.unbilledCharges other account period ↔
      e ∈ s.unbilledCharges other account period ∧ e ≠ t.debit

/-- **Billing a posted charge alone issues its own invoice.** -/
theorem Billed.ownInvoice {i : Invoice} {next : Date} {w' : Quiet} (h : w.store.JustPosted ctx t)
    (hbillable : t.debit.isBillable = true)
    (hnext : t.debit.serviceDate.addDays? 1 = some next)
    (hbilled : Billed ctx (Invoices.ownRequest policy ctx t.debit
      { start := t.debit.serviceDate, finish := next } w.now) w (.ok i) w') :
    OwnInvoice ctx t i w.store w'.store := by
  obtain ⟨htenant, haccount, hentries⟩ := hbilled.bills_request
  obtain ⟨hsubtotal, hpaid, houtstanding⟩ := hbilled.sums
  obtain ⟨-, event, hstore⟩ := hbilled.store_eq
  -- the request is for one charge, so there is one line, and its amount is the only one
  obtain ⟨l, hl, hline⟩ : ∃ l, i.lines = [l] ∧ l.entry = t.debit.id :=
    List.map_eq_singleton_iff.1 (List.perm_singleton.1 hentries)
  obtain ⟨-, charge, hcharge, -, hbills⟩ := hbilled.lines_bill l (hl ▸ List.mem_singleton_self l)
  obtain rfl := List.mem_singleton.1 hcharge
  have hamount : l.amount = t.amount := hbills.amount
  have hsum : i.subtotal = t.amount := by
    rw [hl, List.map_singleton, Money.sum_singleton] at hsubtotal
    exact (Except.ok.inj hsubtotal).symm.trans hamount
  have hnone : i.paymentsApplied = Money.zero := (Except.ok.inj hpaid).symm
  have hrest : t.amount.sub Money.zero = .ok t.amount :=
    Money.sub_zero (LedgerEntry.isZero_of_isBillable hbillable)
  rw [hsum, hnone, hrest] at houtstanding
  refine
    { added := ⟨_, event, hstore⟩, new := hbilled.new_of_ok h.filed
      origin := ⟨htenant, haccount⟩, line := ⟨l, hl, hline, hamount⟩, subtotal := hsum
      payments := hnone, outstanding := (Except.ok.inj houtstanding).symm, period := ?_
      others := fun other account period e => ?_ }
  · rw [hbilled.dates.1]
    exact ⟨rfl, hnext⟩
  · rw [hbilled.mem_unbilledCharges_after rfl (presentable_ownRequest h hbillable hnext) h.filed]
    exact and_congr_right fun _ => not_congr List.mem_singleton

/-! ## What follows a posting -/

/-- The events that tell of posted transactions. -/
def MemoryStore.postings (s : MemoryStore) : List OutboxEvent :=
  s.outbox.filter (·.eventType = .ledgerEntryCreated)

/-- **What the engine adds to a posting**: its report on the invoice, and the state that it leaves
behind, against the one that posting alone leaves behind. -/
structure FollowUp (token : Quiet → Bool) (policy : InvoicingPolicy) (ctx : RequestContext)
    (t : LedgerTransaction) (w₁ : Quiet) (perRide : Option (Except BillingError Invoice))
    (w' : Quiet) : Prop where
  accounts : w'.store.accounts = w₁.store.accounts
  entries : w'.store.entries = w₁.store.entries
  keys : w'.store.keys = w₁.store.keys
  postings : w'.store.postings = w₁.store.postings
  isSome_iff : perRide.isSome ↔ t.sourceType = .rideCharge ∧
    ∃ a, w₁.store.account? ctx.tenant t.account = some a ∧ a.frequency = .perRide
  invoice : ∀ i, perRide = some (.ok i) → OwnInvoice ctx t i w₁.store w'.store
  /-- Without an invoice nothing is written. -/
  nothing : (∀ i, perRide ≠ some (.ok i)) → w'.store = w₁.store
  /-- It is there whenever it can be. -/
  invoice_iff : (∃ i, perRide = some (.ok i)) ↔ perRide.isSome ∧ Invoiceable token policy t w₁

/-- An invoice leaves the ledger as it is. -/
theorem OwnInvoice.ledger_eq {i : Invoice} {s s' : MemoryStore} (h : OwnInvoice ctx t i s s') :
    s'.accounts = s.accounts ∧ s'.entries = s.entries ∧ s'.keys = s.keys ∧
      s'.postings = s.postings := by
  obtain ⟨sequence, event, rfl⟩ := h.added
  refine ⟨rfl, rfl, rfl, ?_⟩
  have hevent : ¬(OutboxEvent.ofInvoice event i).eventType = .ledgerEntryCreated := nofun
  simp [postings, invoiced, hevent]

/-- **Whatever follows a posting is the invoice of its transaction, or nothing.** -/
theorem Followed.followUp {a : Account} {perRide : Option (Except BillingError Invoice)}
    {w' : Quiet} (hfollowed : Followed token policy ctx t a w perRide w')
    (h : w.store.JustPosted ctx t) (ha : w.store.account? ctx.tenant t.account = some a) :
    FollowUp token policy ctx t w perRide w' := by
  have hper : (t.sourceType = .rideCharge ∧
      ∃ a, w.store.account? ctx.tenant t.account = some a ∧ a.frequency = .perRide) ↔
      t.sourceType = .rideCharge ∧ a.frequency = .perRide := by
    rw [ha]
    simp
  cases hfollowed with
  | none why =>
    exact
      { accounts := rfl, entries := rfl, keys := rfl, postings := rfl
        isSome_iff := ⟨fun hsome => (nomatch hsome), fun hride => absurd (hper.1 hride) why⟩
        invoice := fun _ hi => nomatch hi
        nothing := fun _ => rfl
        invoice_iff := ⟨fun ⟨_, hi⟩ => (nomatch hi), fun ⟨hsome, _⟩ => nomatch hsome⟩ }
  | failed ride frequency same why =>
    exact
      { accounts := by rw [same], entries := by rw [same], keys := by rw [same]
        postings := by rw [same]
        isSome_iff := ⟨fun _ => hper.2 ⟨ride, frequency⟩, fun _ => rfl⟩
        invoice := fun _ hi => nomatch hi
        nothing := fun _ => same
        invoice_iff := ⟨fun ⟨_, hi⟩ => (nomatch hi), fun ⟨_, hready⟩ => absurd hready why⟩ }
  | @generated i next w' ride frequency invoiceable nextDay billed =>
    have hinvoice := billed.ownInvoice h invoiceable.billable nextDay
    obtain ⟨haccounts, hentries, hkeys, hpostings⟩ := hinvoice.ledger_eq
    refine
      { accounts := haccounts, entries := hentries, keys := hkeys, postings := hpostings
        isSome_iff := ⟨fun _ => hper.2 ⟨ride, frequency⟩, fun _ => rfl⟩
        invoice := fun i' hi => ?_
        nothing := fun hnone => absurd rfl (hnone i)
        invoice_iff := ⟨fun _ => ⟨rfl, invoiceable⟩, fun _ => ⟨i, rfl⟩⟩ }
    obtain rfl := Except.ok.inj (Option.some.inj hi)
    exact hinvoice

/-- **The engine's invoice is of its transaction alone, and never costs the charge.** In every
reachable store and with any token, posting by the engine comes to an error exactly if posting alone
does, to the same one and in the same state. Where posting alone gives a transaction, the engine
gives it too, with a report on its invoice. The one thing that can keep it from this is that the
invoice is to be numbered in a month that is used up, and that is a fault. -/
theorem ChargeCall.exists_followUp (token : Quiet → Bool) (policy : InvoicingPolicy)
    (ctx : RequestContext) (call : ChargeCall) (hreachable : w.store.Reachable fun _ => True) :
    ∃ result w₁, RunsAttended token (call.alone ctx) w result w₁ ∧
      (∀ x, result = .error x → RunsAttended token (call.byEngine policy ctx) w (.error x) w₁) ∧
      ∀ t, result = .ok t →
        (∃ perRide w', RunsAttended token (call.byEngine policy ctx) w
          (.ok { transaction := t, perRide := perRide }) w' ∧
          FollowUp token policy ctx t w₁ perRide w') ∨
        (w₁.store.UsedUp ctx w₁.now.date ∧
          FaultsAttended token (call.byEngine policy ctx) w .sequence) := by
  obtain ⟨result, w₁, halone, herror, hposted⟩ :=
    call.exists_alone token policy ctx hreachable.invoicing
  refine ⟨result, w₁, halone, herror, fun t ht => ?_⟩
  obtain ⟨hjust, hengine⟩ := hposted t ht
  obtain ⟨a, ha⟩ := hjust.account
  rcases exists_followed token policy hjust ha with
    ⟨perRide, w', hfollows, hfollowed⟩ | ⟨hused, hfaults⟩
  · exact .inl ⟨perRide, w', hengine.trans hfollows, hfollowed.followUp hjust ha⟩
  · exact .inr ⟨hused, hengine.trans hfaults⟩

/-! ## A ride, cancelled or not after it was posted -/

namespace ChargeCall

/-- A ride for an account that is invoiced per ride. -/
def firstRide : ChargeCall := .ride rideRequest

/-- Whether the engine reports an invoice for it. -/
def invoiced (token : Quiet → Bool) : Except RangeFault (Option Bool) :=
  ((firstRide.byEngine .default Sample.operator).run.run (Quiet.attended token) beforeRide).map
    fun (r, _) => r.toOption.bind fun recorded => recorded.perRide.map (·.isOk)

/-- A token that tells of a cancellation as soon as the ride is posted. -/
def endsAfterPosting (w : Quiet) : Bool := w.store.entries.size = 2

/-- The ride is charged either way. It has its invoice if the request is not cancelled, and if it is
cancelled after the posting, the charge is all that is stored. -/
theorem exists_followUp_ride :
    beforeRide.store.Reachable (fun _ => True) ∧
    (∃ t w₁ i w', RunsAttended (fun _ => false) (firstRide.alone Sample.operator) beforeRide
        (.ok t) w₁ ∧
      RunsAttended (fun _ => false) (firstRide.byEngine .default Sample.operator) beforeRide
        (.ok { transaction := t, perRide := some (.ok i) }) w' ∧
      OwnInvoice Sample.operator t i w₁.store w'.store) ∧
    ∃ t w₁ x w', RunsAttended endsAfterPosting (firstRide.alone Sample.operator) beforeRide
        (.ok t) w₁ ∧
      RunsAttended endsAfterPosting (firstRide.byEngine .default Sample.operator) beforeRide
        (.ok { transaction := t, perRide := some (.error x) }) w' ∧
      w'.store = w₁.store := by
  have hfollows {token : Quiet → Bool} {issued : Bool} (h : invoiced token = .ok (some issued)) :
      ∃ t w₁ report w', RunsAttended token (firstRide.alone Sample.operator) beforeRide (.ok t) w₁ ∧
        RunsAttended token (firstRide.byEngine .default Sample.operator) beforeRide
          (.ok { transaction := t, perRide := some report }) w' ∧
        FollowUp token .default Sample.operator t w₁ (some report) w' ∧ report.isOk = issued := by
    obtain ⟨result, w₁, halone, herror, hposted⟩ :=
      exists_followUp token .default Sample.operator firstRide reachable_beforeRide
    cases result with
    | error x =>
      rw [invoiced, herror x rfl] at h
      cases Except.ok.inj h
    | ok t =>
      rcases hposted t rfl with ⟨perRide, w', hruns, hfollow⟩ | ⟨-, hfaults⟩
      swap
      · rw [invoiced, hfaults] at h
        cases h
      rw [invoiced, hruns] at h
      obtain ⟨report, rfl, hissued⟩ := Option.map_eq_some_iff.1 (Except.ok.inj h)
      exact ⟨t, w₁, report, w', halone, hruns, hfollow, hissued⟩
  refine ⟨reachable_beforeRide, ?_, ?_⟩
  · have hissued : invoiced (fun _ => false) = .ok (some true) := by decide +kernel
    obtain ⟨t, w₁, report, w', halone, hruns, hfollow, hok⟩ := hfollows hissued
    cases report with
    | error x => cases hok
    | ok i => exact ⟨t, w₁, i, w', halone, hruns, hfollow.invoice i rfl⟩
  · have hended : invoiced endsAfterPosting = .ok (some false) := by decide +kernel
    obtain ⟨t, w₁, report, w', halone, hruns, hfollow, hok⟩ := hfollows hended
    cases report with
    | ok i => cases hok
    | error x => exact ⟨t, w₁, x, w', halone, hruns, hfollow.nothing fun i hi => nomatch hi⟩

end ChargeCall

end RideLedger
