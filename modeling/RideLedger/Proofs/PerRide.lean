import RideLedger.Proofs.Billing
import RideLedger.Proofs.Charges
import RideLedger.Proofs.Days
import RideLedger.Proofs.FastPath

/-!
# Per-ride invoices — which ways of posting a ride lead to its invoice

An account can be invoiced per ride: a charge gets an invoice of its own in the call that posts it.
The engine sees to that after it has posted (`Engine.afterCommit`), and the ledger service, which
clients have as well, does not. So a charge that comes in per ride gets its invoice exactly if it
comes in by the engine, and is not of the last day of the calendar: the period of that day would end
after it (`invoicesPerRide_of_run`).

A posting is taken apart into its end (`Appended`, `Recorded`) and into what follows it
(`Followed`), with a token that may tell of a cancellation at any moment. That the invoice can be
stored needs no room for sums: one charge is all it bills.
-/

namespace RideLedger

open MemoryStore

variable {token : Quiet → Bool} {policy : InvoicingPolicy} {ctx : RequestContext}
  {t : LedgerTransaction} {w : Quiet}

/-! ## Posting alone -/

/-- What becomes of a transaction that is appended: it is turned down, or posted. -/
inductive Appended (ctx : RequestContext) (t : LedgerTransaction) (w : Quiet) :
    Except BillingError TransactionId → Quiet → Prop
  | refused {x : BillingError} {w' : Quiet} (same : w'.store = w.store) :
      Appended ctx t w (.error x) w'
  | posted (admits : w.store.Admits false ctx t) :
      Appended ctx t w (.ok t.id)
        { w with
          supply := w.supply.advance 1
          store := w.store.posted ctx t ⟨w.supply.ordered 0⟩ }

/-- **Appending posts a transaction, or leaves the store as it was.** -/
theorem exists_appended (token : Quiet → Bool) (ctx : RequestContext)
    (hne : t.debit.id ≠ t.credit.id) :
    ∃ result w', RunsAttended token (Ledger.append ctx t) w result w' ∧
      Appended ctx t w result w' := by
  obtain ⟨result, w', hruns, hrefused, hposted⟩ := Ledger.exists_append token ctx t w
  cases result with
  | error x => exact ⟨_, w', hruns, .refused (hrefused x rfl hne)⟩
  | ok id =>
    obtain ⟨rfl, -, hadmits, rfl⟩ := hposted id rfl
    exact ⟨_, _, hruns, .posted hadmits⟩

/-- What becomes of a ride that the ledger records: it is turned down, or posted. -/
inductive Recorded (ctx : RequestContext) (w : Quiet) :
    Except BillingError LedgerTransaction → Quiet → Prop
  | refused {x : BillingError} {w' : Quiet} (same : w'.store = w.store) :
      Recorded ctx w (.error x) w'
  | posted {t : LedgerTransaction} {event : EventId} (built : t.Built)
      (admits : w.store.Admits false ctx t) :
      Recorded ctx w (.ok t)
        { w with supply := w.supply.advance 4, store := w.store.posted ctx t event }

theorem RideChargeRequest.inRange_check {r : RideChargeRequest} : r.check.InRange := by
  unfold check checkLengths
  split
  · exact Outcome.inRange_pure
  · exact Outcome.inRange_refuse

/-- **Recording a ride posts it, or leaves the store as it was.** -/
theorem exists_recorded (token : Quiet → Bool) (ctx : RequestContext) (r : RideChargeRequest)
    (w : Quiet) :
    ∃ result w', RunsAttended token (Ledger.recordRideCharge ctx r) w result w' ∧
      Recorded ctx w result w' := by
  obtain ⟨checked, hchecked⟩ : r.check.InRange := RideChargeRequest.inRange_check
  cases checked with
  | error x => exact ⟨_, w, runsAttended_bind_error (runsAttended_ofOutcome hchecked), .refused rfl⟩
  | ok _ =>
    let ids : TransactionIds :=
      { transaction := ⟨w.supply.ordered 2⟩, debit := ⟨w.supply.ordered 0⟩
        credit := ⟨w.supply.ordered 1⟩ }
    have hids : RunsAttended token Ledger.freshIds w (.ok ids) (w.drawn 3) :=
      runsAttended_bind runsAttended_fresh runsAttended_pure
    -- two places of the supply are two identifiers, so the store can post both entries
    have hne : ids.debit ≠ ids.credit := fun hsame => by
      have hplace := Quiet.ordered_inj (show 3 ≤ 2 ^ 128 by decide) (by decide) (by decide)
        (congrArg Id.uuid hsame)
      cases hplace
    obtain ⟨made, hmade⟩ : (LedgerTransaction.rideCharge ids ctx.tenant r.account r.ride r.amount
      w.now ctx.actor r.description).InRange := LedgerTransaction.inRange_post
    suffices h : ∃ result w', RunsAttended token _ (w.drawn 3) result w' ∧
        Recorded ctx w result w' by
      obtain ⟨result, w', hruns, hrecorded⟩ := h
      exact ⟨result, w', runsAttended_bind (runsAttended_ofOutcome hchecked)
        (runsAttended_bind hids (runsAttended_bind runsAttended_now hruns)), hrecorded⟩
    cases made with
    | error x => exact ⟨_, _, runsAttended_bind_error (runsAttended_ofOutcome hmade), .refused rfl⟩
    | ok t =>
      have hbuilt : t.Built := LedgerTransaction.built_of_post hne hmade
      obtain ⟨result, w', hruns, happended⟩ :=
        exists_appended (w := w.drawn 3) token ctx hbuilt.doubleEntry.2
      cases happended with
      | refused same =>
        exact ⟨_, _, runsAttended_bind (runsAttended_ofOutcome hmade)
          (runsAttended_bind_error hruns), .refused same⟩
      | posted admits =>
        exact ⟨_, _, runsAttended_bind (runsAttended_ofOutcome hmade)
          (runsAttended_bind hruns runsAttended_pure), .posted hbuilt admits⟩

/-! ## The invoice of a charge -/

namespace MemoryStore

variable {s : MemoryStore} {account : AccountId} {period : BillingPeriod} {e : LedgerEntry}

/-- By its identifier a charge is selected alone. -/
theorem filter_unbilledCharges (hfiled : s.Filed)
    (he : e ∈ s.unbilledCharges ctx account period) :
    (s.unbilledCharges ctx account period).filter (·.id = e.id) = [e] := by
  have hids : ((s.unbilledCharges ctx account period).map (·.id)).Nodup :=
    unbilledCharges_nodup hfiled
  -- no other charge has its identifier, so the filter is for the charge itself
  have hsame : (s.unbilledCharges ctx account period).filter (·.id = e.id) =
      (s.unbilledCharges ctx account period).filter (· = e) :=
    List.filter_congr fun other hother => by
      have hiff : other.id = e.id ↔ other = e :=
        ⟨fun hid => List.inj_on_of_nodup_map hids hother he hid, fun h => congrArg _ h⟩
      simp [hiff]
  rw [hsame, List.filter_eq, List.count_eq_one_of_mem hids.of_map he]
  rfl

/-- The identifier of another stored entry selects nothing. -/
theorem filter_unbilledCharges_nil (hfiled : s.Filed) (hstored : e ∈ s.entries.values)
    (he : e ∉ s.unbilledCharges ctx account period) :
    (s.unbilledCharges ctx account period).filter (·.id = e.id) = [] := by
  rw [List.filter_eq_nil_iff]
  intro other hother hid
  have hsame : other = e := List.inj_on_of_nodup_map hfiled.ids_nodup
    (mem_unbilledCharges_iff.1 hother).1 hstored (of_decide_eq_true hid)
  exact he (hsame ▸ hother)

/-- A store right after a transaction was posted: it holds the transaction, and no invoice has a
line for it. -/
structure JustPosted (ctx : RequestContext) (t : LedgerTransaction) (s : MemoryStore) : Prop where
  filed : s.Filed
  numbered : s.Numbered
  tenant : t.tenant = ctx.tenant
  account : ∃ a, s.account? ctx.tenant t.account = some a
  stored : t.debit ∈ s.entries.values
  unbilled : (ctx.tenant, t.debit.id) ∉ s.billed.keys

/-- **An entry that is not stored is on no invoice.** -/
theorem Traced.not_billed (h : s.Traced) {tenant : TenantId} {entry : EntryId}
    (hentry : entry ∉ s.entries.keys) : (tenant, entry) ∉ s.billed.keys := by
  rw [h.keys_eq, List.mem_flatMap]
  rintro ⟨i, hi, hline⟩
  obtain ⟨l, hl, hpair⟩ := List.mem_map.1 hline
  obtain ⟨-, charge, hcharge, -⟩ := (h.invoices i hi).lines l hl
  obtain ⟨-, rfl⟩ := Prod.mk.inj hpair
  exact hentry (List.mem_map_of_mem (WriteOnce.mem_of_get? hcharge))

theorem justPosted {event : EventId} (hfiled : s.Filed) (htraced : s.Traced)
    (hnumbered : s.Numbered) (hne : t.debit.id ≠ t.credit.id) (h : s.Admits false ctx t) :
    (s.posted ctx t event).JustPosted ctx t := by
  have hcommit : Commit false s (.appendTransaction ctx t event) (s.posted ctx t event) :=
    .posted h hne
  obtain ⟨a, ha, -⟩ := h.account
  refine ⟨hcommit.filed hfiled, hcommit.numbered hnumbered, h.tenant, ⟨a, ha⟩, ?_,
    htraced.not_billed h.debit⟩
  rw [posted, WriteOnce.extend_values]
  exact List.mem_append_right _ (List.mem_cons_self ..)

end MemoryStore

/-- A request for the invoice of one charge. -/
def Invoices.ownRequest (policy : InvoicingPolicy) (ctx : RequestContext) (e : LedgerEntry)
    (period : BillingPeriod) (now : Instant) : DraftRequest :=
  draftRequest policy ctx e.account period [e] [] .default now

/-- It is for one line. -/
theorem Invoices.linesOf_ownRequest {e : LedgerEntry} {period : BillingPeriod} {now : Instant}
    {ids : DraftIds} :
    InvoiceDraft.linesOf ids (ownRequest policy ctx e period now).charges =
      [.ofCharge (ids.line 0) ids.invoice e] := by
  simp [InvoiceDraft.linesOf, ownRequest, draftRequest]

/-- A posted charge can be billed alone: the sum of one amount is that amount. -/
theorem presentable_ownRequest {s : MemoryStore} {next : Date} {now : Instant}
    (h : s.JustPosted ctx t) (hbillable : t.debit.isBillable = true)
    (hnext : t.debit.serviceDate.addDays? 1 = some next) :
    (Invoices.ownRequest policy ctx t.debit
      { start := t.debit.serviceDate, finish := next } now).Presentable s where
  stored e he := List.mem_singleton.1 he ▸ h.stored
  unbilled e he := List.mem_singleton.1 he ▸ h.unbilled
  chargeable e he := by
    obtain rfl := List.mem_singleton.1 he
    exact ⟨h.tenant, rfl, hbillable, BillingPeriod.contains_singleDay hnext⟩
  nodup := List.nodup_singleton _
  sums ids := by
    refine ⟨t.debit.debitAmount, Money.zero, t.debit.debitAmount, ?_, rfl,
      Money.sub_zero (LedgerEntry.isZero_of_isBillable hbillable)⟩
    rw [Invoices.linesOf_ownRequest]
    exact Money.sum_singleton _

/-- **A posted charge is put to the store on its own**, whatever other charges wait for their
invoice, if the month has a number left for it. -/
theorem exists_ownInvoice (token : Quiet → Bool) {next : Date} (h : w.store.JustPosted ctx t)
    (hbillable : t.debit.isBillable = true)
    (hnext : t.debit.serviceDate.addDays? 1 = some next) :
    (∃ result w', RunsAttended token (Invoices.generatePerRide policy ctx t) w result w' ∧
      Presented token ctx (Invoices.ownRequest policy ctx t.debit
        { start := t.debit.serviceDate, finish := next } w.now) w result w') ∨
    (w.store.UsedUp ctx w.now.date ∧
      FaultsAttended token (Invoices.generatePerRide policy ctx t) w .sequence) := by
  obtain ⟨a, ha⟩ := h.account
  have hid : a.id = t.debit.account := id_of_account? ha
  have hride : t.sourceType = .rideCharge := (LedgerEntry.isBillable_iff.1 hbillable).1
  have hcharge : t.debit ∈ w.store.unbilledCharges ctx a.id
      { start := t.debit.serviceDate, finish := next } :=
    mem_unbilledCharges_iff.2 ⟨h.stored, h.tenant, hid.symm, hbillable,
      BillingPeriod.contains_singleDay hnext, h.unbilled⟩
  have hday : RunsAttended token _ w _ w :=
    runsAttended_ofOutcome (BillingPeriod.gives_singleDay hnext)
  -- up to the draft nothing depends on the number, and the draft is of this one charge
  have hruns : (Invoices.generatePerRide policy ctx t).run.run (Quiet.attended token) w =
      (Invoices.draft policy ctx t.debit.account { start := t.debit.serviceDate, finish := next }
        [t.debit] [] .default >>= Invoices.persist ctx).run.run (Quiet.attended token) w := by
    rw [Invoices.generatePerRide, if_neg (not_not.2 hride)]
    refine (run_bind_of_ok (runsAttended_get ha)).trans ((run_bind_of_ok hday).trans
      ((run_bind_of_ok (runsAttended_demand rfl)).trans ?_))
    rw [filter_unbilledCharges h.filed hcharge, hid]
  rw [FaultsAttended, hruns]
  simp only [RunsAttended, hruns]
  exact Invoices.exists_presented token rfl (presentable_ownRequest h hbillable hnext) h.filed
    h.numbered

/-- A transaction that is not to be invoiced on its own leaves the store as it is. -/
theorem exists_noInvoice (token : Quiet → Bool) (h : w.store.JustPosted ctx t)
    (hnot : ¬(t.debit.isBillable = true ∧ t.debit.serviceDate.number < lastDay)) :
    ∃ x w', RunsAttended token (Invoices.generatePerRide policy ctx t) w (.error x) w' ∧
      w'.store = w.store := by
  obtain ⟨a, ha⟩ := h.account
  by_cases hride : t.sourceType = .rideCharge
  swap
  · rw [Invoices.generatePerRide, if_pos hride]
    exact ⟨_, w, runsAttended_bind_error runsAttended_throw, rfl⟩
  rw [Invoices.generatePerRide, if_neg (not_not.2 hride)]
  cases hnext : t.debit.serviceDate.addDays? 1 with
  | none =>
    have hday : RunsAttended token _ w _ w :=
      runsAttended_ofOutcome (BillingPeriod.run_singleDay_of_none hnext)
    exact ⟨_, w, runsAttended_bind (runsAttended_get ha) (runsAttended_bind_error hday), rfl⟩
  | some next =>
    have hday : RunsAttended token _ w _ w :=
      runsAttended_ofOutcome (BillingPeriod.gives_singleDay hnext)
    -- then it is no charge, and what is selected by its identifier is nothing
    have hcharge : t.debit ∉ w.store.unbilledCharges ctx a.id
        { start := t.debit.serviceDate, finish := next } := fun hmem => by
      obtain ⟨-, -, -, hbillable, -⟩ := mem_unbilledCharges_iff.1 hmem
      exact hnot ⟨hbillable, Date.isSome_addDays?_one.1 (by rw [hnext]; rfl)⟩
    have hnone := filter_unbilledCharges_nil h.filed h.stored hcharge
    exact ⟨_, _, runsAttended_bind (runsAttended_get ha) (runsAttended_bind hday
      (runsAttended_bind (runsAttended_demand rfl) (runsAttended_bind_error
        (Invoices.runsAttended_draft (InvoiceDraft.assemble_of_nil hnone))))), rfl⟩

/-! ## What follows a posting -/

/-- Whether a transaction is to be invoiced as soon as it is posted: it is a charge, its account is
invoiced per ride, and its day is not the last. -/
def InvoicedAtOnce (t : LedgerTransaction) (a : Account) : Prop :=
  t.debit.isBillable = true ∧ a.frequency = .perRide ∧ t.debit.serviceDate.number < lastDay

/-- What it takes for a posted transaction to get its own invoice: it is a charge, its day is not
the last, its due date is in range, the identifier for the invoice is new, and the request was not
cancelled by the time that the draft comes to the store. -/
structure Invoiceable (token : Quiet → Bool) (policy : InvoicingPolicy) (t : LedgerTransaction)
    (w : Quiet) : Prop where
  billable : t.debit.isBillable = true
  day : t.debit.serviceDate.number < lastDay
  due : (w.now.date.addDays? policy.paymentTermsDays.toNat).isSome
  new : (⟨w.supply.ordered 0⟩ : InvoiceId) ∉ w.store.invoices.keys
  live : token (w.drawn 3) = false

/-- What the engine reports on the invoice of a posted transaction, and what it leaves behind. -/
inductive Followed (token : Quiet → Bool) (policy : InvoicingPolicy) (ctx : RequestContext)
    (t : LedgerTransaction) (a : Account) (w : Quiet) :
    Option (Except BillingError Invoice) → Quiet → Prop
  | none (why : ¬(t.sourceType = .rideCharge ∧ a.frequency = .perRide)) :
      Followed token policy ctx t a w none w
  | failed {x : BillingError} {w' : Quiet} (ride : t.sourceType = .rideCharge)
      (frequency : a.frequency = .perRide) (same : w'.store = w.store)
      (why : ¬Invoiceable token policy t w) :
      Followed token policy ctx t a w (some (.error x)) w'
  | generated {i : Invoice} {next : Date} {w' : Quiet} (ride : t.sourceType = .rideCharge)
      (frequency : a.frequency = .perRide) (invoiceable : Invoiceable token policy t w)
      (nextDay : t.debit.serviceDate.addDays? 1 = some next)
      (billed : Billed ctx (Invoices.ownRequest policy ctx t.debit
        { start := t.debit.serviceDate, finish := next } w.now) w (.ok i) w') :
      Followed token policy ctx t a w (some (.ok i)) w'

/-- What becomes of the request for a posted charge's own invoice is what the engine reports. -/
theorem Presented.followed {a : Account} {next : Date} {result : Except BillingError Invoice}
    {w' : Quiet} (h : Presented token ctx (Invoices.ownRequest policy ctx t.debit
      { start := t.debit.serviceDate, finish := next } w.now) w result w')
    (hride : t.sourceType = .rideCharge) (hfrequency : a.frequency = .perRide)
    (hbillable : t.debit.isBillable = true) (hday : t.debit.serviceDate.number < lastDay)
    (hnext : t.debit.serviceDate.addDays? 1 = some next) :
    Followed token policy ctx t a w (some result) w' := by
  cases h with
  | nothing empty => exact absurd empty (List.cons_ne_nil _ _)
  | overdue some late =>
    refine .failed hride hfrequency rfl fun hready => ?_
    have hdue := hready.due
    rw [show w.now.date.addDays? policy.paymentTermsDays.toNat = none from late] at hdue
    cases hdue
  | taken _ _ old =>
    exact .failed hride hfrequency rfl fun hready => hready.new old
  | stopped _ _ _ ended =>
    refine .failed hride hfrequency rfl fun hready => ?_
    have hlive := hready.live
    rw [show token (w.drawn 3) = true from ended] at hlive
    cases hlive
  | issued new live billed =>
    refine .generated hride hfrequency
      { billable := hbillable, day := hday, due := ?_, new := new, live := live } hnext billed
    exact Option.isSome_of_eq_some billed.dates.2.2

/-- **What the engine does after a posting** never fails: it reports what became of the invoice.
There is only one fault, that the invoice is to be numbered in a month that is used up. -/
theorem exists_followed (token : Quiet → Bool) (policy : InvoicingPolicy) {a : Account}
    (h : w.store.JustPosted ctx t) (ha : w.store.account? ctx.tenant t.account = some a) :
    (∃ perRide w', RunsAttended token (Engine.afterCommit policy ctx t) w
      (.ok { transaction := t, perRide := perRide }) w' ∧
      Followed token policy ctx t a w perRide w') ∨
    (w.store.UsedUp ctx w.now.date ∧
      FaultsAttended token (Engine.afterCommit policy ctx t) w .sequence) := by
  by_cases hride : t.sourceType = .rideCharge
  swap
  · rw [Engine.afterCommit, if_pos hride]
    exact .inl ⟨_, w, runsAttended_pure, .none fun hper => hride hper.1⟩
  -- the account is found, so what is left is to look at its frequency
  have hget {result : Except RangeFault (Except BillingError RecordedCharge × Quiet)}
      (hrest : (if a.frequency ≠ .perRide then pure { transaction := t, perRide := none } else do
        return { transaction := t
                 perRide := some (← (Invoices.generatePerRide policy ctx t).attempt) } :
          Service RecordedCharge).run.run (Quiet.attended token) w = result) :
      (Engine.afterCommit policy ctx t).run.run (Quiet.attended token) w = result := by
    rw [Engine.afterCommit, if_neg (not_not.2 hride)]
    exact (run_bind_of_ok (runsAttended_attempt (runsAttended_get ha))).trans hrest
  by_cases hfrequency : a.frequency = .perRide
  swap
  · rw [if_pos hfrequency] at hget
    exact .inl ⟨_, w, hget rfl, .none fun hper => hfrequency hper.2⟩
  rw [if_neg (not_not.2 hfrequency)] at hget
  have hreport {result : Except BillingError Invoice} {w' : Quiet}
      (hruns : RunsAttended token (Invoices.generatePerRide policy ctx t) w result w') :
      RunsAttended token (Engine.afterCommit policy ctx t) w
        (.ok { transaction := t, perRide := some result }) w' :=
    hget (runsAttended_bind (runsAttended_attempt hruns) runsAttended_pure)
  by_cases hday : t.debit.isBillable = true ∧ t.debit.serviceDate.number < lastDay
  swap
  · obtain ⟨x, w', hruns, hsame⟩ := exists_noInvoice token h hday
    exact .inl ⟨_, w', hreport hruns,
      .failed hride hfrequency hsame fun hready => hday ⟨hready.billable, hready.day⟩⟩
  obtain ⟨hbillable, hday⟩ := hday
  obtain ⟨next, hnext⟩ := Option.isSome_iff_exists.1 (Date.isSome_addDays?_one.2 hday)
  rcases exists_ownInvoice token h hbillable hnext with
    ⟨result, w', hruns, hpresented⟩ | ⟨hused, hfaults⟩
  swap
  · exact .inr ⟨hused, hget (faultsAttended_bind_left (faultsAttended_attempt hfaults))⟩
  exact .inl ⟨_, w', hreport hruns, hpresented.followed hride hfrequency hbillable hday hnext⟩

/-- What becomes of a posted transaction in the same call: it gets its own invoice, or the store
stays as it is. -/
inductive FollowedUp (policy : InvoicingPolicy) (ctx : RequestContext) (t : LedgerTransaction)
    (a : Account) (w : Quiet) : Quiet → Prop
  | left {w' : Quiet} (same : w'.store = w.store) (why : ¬InvoicedAtOnce t a) :
      FollowedUp policy ctx t a w w'
  | invoiced {i : Invoice} {period : BillingPeriod} {w' : Quiet} (due : InvoicedAtOnce t a)
      (billed : Billed ctx (Invoices.ownRequest policy ctx t.debit period w.now) w (.ok i) w') :
      FollowedUp policy ctx t a w w'

/-- **With a due date in range, a new identifier and nobody to cancel**, the engine invoices what is
to be invoiced at once, or the month is used up. -/
theorem exists_followedUp {a : Account} (h : w.store.JustPosted ctx t)
    (ha : w.store.account? ctx.tenant t.account = some a)
    (hdue : (w.now.date.addDays? policy.paymentTermsDays.toNat).isSome)
    (hnew : (⟨w.supply.ordered 0⟩ : InvoiceId) ∉ w.store.invoices.keys) :
    (∃ recorded w', Runs (Engine.afterCommit policy ctx t) w (.ok recorded) w' ∧
      FollowedUp policy ctx t a w w') ∨
    (w.store.UsedUp ctx w.now.date ∧ Faults (Engine.afterCommit policy ctx t) w .sequence) := by
  rcases exists_followed (fun _ => false) policy h ha with
    ⟨perRide, w', hruns, hfollowed⟩ | ⟨hused, hfaults⟩
  swap
  · exact .inr ⟨hused, hfaults⟩
  refine .inl ⟨_, w', hruns.heeding.runs, ?_⟩
  cases hfollowed with
  | none why =>
    exact .left rfl fun honce => why ⟨(LedgerEntry.isBillable_iff.1 honce.1).1, honce.2.1⟩
  | failed ride frequency same why =>
    exact .left same fun honce => why
      { billable := honce.1, day := honce.2.2, due := hdue, new := hnew, live := rfl }
  | generated ride frequency invoiceable nextDay billed =>
    exact .invoiced ⟨invoiceable.billable, frequency, invoiceable.day⟩ billed

/-! ## Charges that come in per ride -/

/-- A charge that came in while its account was invoiced per ride. -/
structure CameInPerRide (s s' : MemoryStore) (e : LedgerEntry) : Prop where
  stored : e ∈ s'.entries.values
  new : e ∉ s.entries.values
  billable : e.isBillable = true
  account : ∃ a, s.account? e.tenant e.account = some a ∧ a.frequency = .perRide

/-- An invoice came in that bills a charge and nothing else. -/
def InvoicedAlone (s s' : MemoryStore) (e : LedgerEntry) : Prop :=
  ∃ i ∈ s'.invoices.values, i ∉ s.invoices.values ∧ i.tenant = e.tenant ∧ i.account = e.account ∧
    i.lines.map (·.entry) = [e.id]

/-- Charges that came in per ride have their own invoices if they came in by the engine and are not
of the last day, and otherwise they have none. -/
def InvoicesPerRide (byEngine : Prop) (s s' : MemoryStore) : Prop :=
  ∀ e, CameInPerRide s s' e →
    (InvoicedAlone s s' e ↔ byEngine ∧ e.serviceDate.number < lastDay)

section Charges

variable {byEngine : Prop} {s s' : MemoryStore} {a : Account} {event : EventId}

/-- Where the charges stay what they are, none came in. -/
theorem invoicesPerRide_of_charges (h : s'.charges = s.charges) :
    InvoicesPerRide byEngine s s' := fun e he => by
  have hcharge : e ∈ s'.charges := List.mem_filter.2 ⟨he.stored, he.billable⟩
  rw [h] at hcharge
  exact absurd (List.mem_filter.1 hcharge).1 he.new

/-- The charge that comes in by a posting is its debit. -/
theorem CameInPerRide.eq_debit {e : LedgerEntry} (h : CameInPerRide s s' e) (hbuilt : t.Built)
    (hadmits : s.Admits false ctx t) (ha : s.account? ctx.tenant t.account = some a)
    (hentries : s'.entries = (s.posted ctx t event).entries) :
    e = t.debit ∧ a.frequency = .perRide := by
  obtain ⟨hdouble, -⟩ := hbuilt.doubleEntry
  have hmem : e ∈ s.entries.values ++ [t.debit, t.credit] := by
    have hstored := h.stored
    rwa [hentries, posted, WriteOnce.extend_values] at hstored
  -- the credit lies on the other side, so it is never billable
  have hdebit : e = t.debit := by
    rcases List.mem_pair.1 ((List.mem_append.1 hmem).resolve_left h.new) with rfl | rfl
    · rfl
    · have hbillable := h.billable
      simp [LedgerEntry.isBillable, hdouble.sides.2] at hbillable
  subst hdebit
  obtain ⟨a', ha', hfrequency⟩ := h.account
  have hsame : a' = a := by
    have htenant : t.debit.tenant = ctx.tenant := hadmits.tenant
    rw [htenant] at ha'
    exact Option.some.inj (ha'.symm.trans ha)
  exact ⟨rfl, hsame ▸ hfrequency⟩

/-- Posting alone invoices nothing. -/
theorem invoicesPerRide_posted (hby : ¬byEngine) :
    InvoicesPerRide byEngine s (s.posted ctx t event) := fun _ _ =>
  ⟨fun ⟨_, hi, hnew, _⟩ => absurd hi hnew, fun h => absurd h.1 hby⟩

/-- **What follows a posting invoices it**, if it is not of the last day. -/
theorem FollowedUp.invoicesPerRide {w₁ w' : Quiet} (h : FollowedUp policy ctx t a w₁ w')
    (hby : byEngine) (hposted : w₁.store = s.posted ctx t event) (hfiled : w₁.store.Filed)
    (hbuilt : t.Built) (hadmits : s.Admits false ctx t)
    (ha : s.account? ctx.tenant t.account = some a) :
    InvoicesPerRide byEngine s w'.store := by
  intro e he
  rw [and_iff_right hby]
  cases h with
  | left same why =>
    -- all that stands against an invoice of a charge that came in per ride is the day
    rw [same, hposted] at he ⊢
    obtain ⟨rfl, hfrequency⟩ := he.eq_debit hbuilt hadmits ha rfl
    exact ⟨fun ⟨_, hi, hnew, _⟩ => absurd hi hnew,
      fun hday => absurd ⟨he.billable, hfrequency, hday⟩ why⟩
  | @invoiced i period _ due billed =>
    have hentries : w'.store.entries = (s.posted ctx t event).entries := by
      rw [billed.entries_eq, hposted]
    obtain ⟨rfl, -⟩ := he.eq_debit hbuilt hadmits ha hentries
    refine ⟨fun _ => due.2.2, fun _ => ?_⟩
    obtain ⟨htenant, haccount, hlines⟩ := billed.bills_request
    have hstored : i ∈ w'.store.invoices.values := by
      rw [billed.invoices_eq, WriteOnce.extend_values]
      exact List.mem_append_right _ (List.mem_singleton_self _)
    have hnew : i ∉ s.invoices.values := by
      have hnew := billed.new_of_ok hfiled
      rwa [hposted] at hnew
    exact ⟨i, hstored, hnew, htenant.trans hadmits.tenant.symm, haccount,
      List.perm_singleton.1 hlines⟩

end Charges

/-! ## The calls that post rides -/

section Calls

variable {byEngine : Prop} {event : EventId}

/-- **The engine invoices what it has posted**, unless the month is used up. -/
theorem exists_invoicedPosting {α : Type} {post : Service α} {x : α}
    {next : α → Service RecordedCharge} (used : Nat)
    (hruns : Runs post w (.ok x)
      { w with supply := w.supply.advance used, store := w.store.posted ctx t event })
    (hnext : next x = Engine.afterCommit policy ctx t) (hby : byEngine)
    (hbooks : w.store.Filed ∧ w.store.Traced ∧ w.store.Numbered)
    (hbuilt : t.Built) (hadmits : w.store.Admits false ctx t)
    (hdue : (w.now.date.addDays? policy.paymentTermsDays.toNat).isSome)
    (hfresh : w.Fresh (used + 1)) :
    (∃ w', (unheeded (post >>= next)).run Quiet.world w = .ok ((), w') ∧
      InvoicesPerRide byEngine w.store w'.store) ∨
    ((∃ ctx, w.store.UsedUp ctx w.now.date) ∧
      (unheeded (post >>= next)).run Quiet.world w = .error .sequence) := by
  obtain ⟨hfiled, htraced, hnumbered⟩ := hbooks
  obtain ⟨a, ha, -⟩ := hadmits.account
  have hposted : (w.store.posted ctx t event).JustPosted ctx t :=
    justPosted hfiled htraced hnumbered hbuilt.doubleEntry.2 hadmits
  have hnew : (⟨(w.supply.advance used).ordered 0⟩ : InvoiceId) ∉
      (w.store.posted ctx t event).invoices.keys := by
    rw [Supply.ordered_advance]
    exact hfresh.2 used (Nat.lt_succ_self _)
  rcases exists_followedUp
    (w := { w with supply := w.supply.advance used, store := w.store.posted ctx t event })
    hposted ha hdue hnew with ⟨recorded, w', hfollows, hfollowed⟩ | ⟨hused, hfaults⟩
  · refine .inl ⟨w', run_unheeded (runs_bind hruns (hnext ▸ hfollows)), ?_⟩
    exact hfollowed.invoicesPerRide hby rfl hposted.filed hbuilt hadmits ha
  · exact .inr ⟨⟨ctx, hused⟩, fault_unheeded (faults_bind hruns (hnext ▸ hfaults))⟩

end Calls

namespace Operation

/-- A call that posts a ride by the ledger service and not by the engine. -/
def PassesEngineBy : Operation → Prop
  | .ledgerRideCharge .. | .ledgerAppend .. => True
  | _ => False

/-- **What becomes of the rides that calls post**, unless the month of a tenant is used up. -/
theorem exists_posting (call : Operation)
    (hbooks : w.store.Filed ∧ w.store.Traced ∧ w.store.Numbered)
    (hposts : call.Posts LedgerTransaction.Built)
    (hdue : (w.now.date.addDays? policy.paymentTermsDays.toNat).isSome) (hfresh : w.Fresh 5)
    (hrides : call.PostsRides) :
    (∃ w', (call.plan policy).run Quiet.world w = .ok ((), w') ∧
      InvoicesPerRide (¬call.PassesEngineBy) w.store w'.store) ∨
    ((∃ ctx, w.store.UsedUp ctx w.now.date) ∧
      (call.plan policy).run Quiet.world w = .error .sequence) := by
  have hsame {byEngine : Prop} {s : MemoryStore} (h : s = w.store) :
      InvoicesPerRide byEngine w.store s := invoicesPerRide_of_charges (congrArg charges h)
  cases call with
  | recordRideCharge ctx r =>
    obtain ⟨result, w', hruns, hrecorded⟩ := exists_recorded (fun _ => false) ctx r w
    cases hrecorded with
    | refused same => exact .inl ⟨_, run_unheeded (runs_bind_error hruns), hsame same⟩
    | posted built admits =>
      exact exists_invoicedPosting 4 hruns rfl id hbooks built admits hdue hfresh
  | append ctx t =>
    have hbuilt : t.Built := hposts
    obtain ⟨result, w', hruns, happended⟩ :=
      exists_appended (fun _ => false) ctx hbuilt.doubleEntry.2
    cases happended with
    | refused same => exact .inl ⟨_, run_unheeded (runs_bind_error hruns), hsame same⟩
    | posted admits =>
      exact exists_invoicedPosting 1 hruns rfl id hbooks hbuilt admits hdue
        (hfresh.mono (by decide))
  | ledgerRideCharge ctx r =>
    obtain ⟨result, w', hruns, hrecorded⟩ := exists_recorded (fun _ => false) ctx r w
    cases hrecorded with
    | refused same => exact .inl ⟨_, run_unheeded hruns, hsame same⟩
    | posted built admits =>
      exact .inl ⟨_, run_unheeded hruns, invoicesPerRide_posted fun h => h trivial⟩
  | ledgerAppend ctx t =>
    have hbuilt : t.Built := hposts
    obtain ⟨result, w', hruns, happended⟩ :=
      exists_appended (w := w) (fun _ => false) ctx hbuilt.doubleEntry.2
    cases happended with
    | refused same => exact .inl ⟨_, run_unheeded hruns, hsame same⟩
    | posted admits =>
      exact .inl ⟨_, run_unheeded hruns, invoicesPerRide_posted fun h => h trivial⟩
  | _ => exact hrides.elim

/-- A call that posts rides leaves those invoices, if it comes to its end. -/
theorem invoicesPerRide_of_postsRides (call : Operation)
    (hbooks : w.store.Filed ∧ w.store.Traced ∧ w.store.Numbered)
    (hposts : call.Posts LedgerTransaction.Built)
    (hdue : (w.now.date.addDays? policy.paymentTermsDays.toNat).isSome) (hfresh : w.Fresh 5)
    (hrides : call.PostsRides) {w' : Quiet}
    (hrun : (call.plan policy).run Quiet.world w = .ok ((), w')) :
    InvoicesPerRide (¬call.PassesEngineBy) w.store w'.store := by
  rcases call.exists_posting hbooks hposts hdue hfresh hrides with
    ⟨w'', hrun', hinvoices⟩ | ⟨-, hfault⟩
  · obtain rfl : w'' = w' := (Prod.mk.inj (Except.ok.inj (hrun'.symm.trans hrun))).2
    exact hinvoices
  · cases hfault.symm.trans hrun

end Operation

/-- **A charge that comes in per ride gets its own invoice in the same call exactly if it comes in
by the engine** and is not of the last day, in every reachable store. The calls that post rides come
to an end, unless an invoice is to be numbered in a month that is used up. -/
theorem invoicesPerRide_of_run (call : Operation) (hreachable : w.store.Reachable fun _ => True)
    (hposts : call.Posts LedgerTransaction.Built)
    (hdue : (w.now.date.addDays? policy.paymentTermsDays.toNat).isSome) (hfresh : w.Fresh 5) :
    (call.PostsRides → (∃ w', (call.plan policy).run Quiet.world w = .ok ((), w')) ∨
      (∃ ctx, w.store.UsedUp ctx w.now.date) ∧
        (call.plan policy).run Quiet.world w = .error .sequence) ∧
      ∀ w', (call.plan policy).run Quiet.world w = .ok ((), w') →
        InvoicesPerRide (¬call.PassesEngineBy) w.store w'.store := by
  refine ⟨fun hrides => ?_, fun w' hrun => ?_⟩
  · exact (call.exists_posting hreachable.invoicing hposts hdue hfresh hrides).imp_left
      fun ⟨w', hrun, _⟩ => ⟨w', hrun⟩
  -- other calls leave the charges what they are, so none can come in by them
  by_cases hrides : call.PostsRides
  · exact call.invoicesPerRide_of_postsRides hreachable.invoicing hposts hdue hfresh hrides hrun
  · have hcharges : w'.store.charges = w.store.charges :=
      Plan.Asks.run (R := fun s => s.charges = w.store.charges) (Operation.chargeless hrides)
        (fun hmay hserve h => (charges_kept hmay hserve).trans h) hrun rfl
    exact invoicesPerRide_of_charges hcharges

/-! ## An account that is invoiced per ride -/

/-- Opening an account that is invoiced per ride. -/
def perRideCalls : List Operation :=
  [.createAccount Sample.operator
    { name := Sample.accountName, accountType := .organization, frequency := .perRide }]

/-- The account is open, and no ride was posted. -/
def beforeRide : Quiet := ⟨Sample.epoch, Supply.start.advance 1, storeAfter perRideCalls⟩

/-- A ride for the account. -/
def rideRequest : RideChargeRequest :=
  { account := firstAccount, ride := "ride-1", amount := Sample.rideFare, description := none }

/-- The debit of the ride at an instant. -/
def rideDebit (id : EntryId) (createdAt : Instant) : LedgerEntry where
  id := id
  tenant := Sample.tenant
  account := firstAccount
  ledgerAccount := .accountsReceivable
  debitAmount := Sample.rideFare
  creditAmount := Money.zero
  sourceType := .rideCharge
  reference := "ride-1"
  createdAt := createdAt
  createdBy := Sample.operator.actor
  description := some "Ride charge"

/-- The credit of the ride at an instant. -/
def rideCredit (id : EntryId) (createdAt : Instant) : LedgerEntry :=
  { rideDebit id createdAt with
    ledgerAccount := .serviceRevenue, debitAmount := Money.zero, creditAmount := Sample.rideFare }

/-- The ride comes in per ride, whatever call posts it. -/
theorem cameInPerRide_rideDebit {s : MemoryStore} {id : EntryId} {credit : LedgerEntry}
    {createdAt : Instant} (h : s.entries.values = [rideDebit id createdAt, credit]) :
    CameInPerRide beforeRide.store s (rideDebit id createdAt) := by
  have hnone : beforeRide.store.entries.values = [] := by decide +kernel
  have hfrequency : (beforeRide.store.account? Sample.tenant firstAccount).map (·.frequency) =
      some .perRide := by decide +kernel
  refine ⟨?_, ?_, rfl, Option.map_eq_some_iff.1 hfrequency⟩
  · rw [h]
    exact List.mem_cons_self ..
  · rw [hnone]
    exact List.not_mem_nil

theorem reachable_beforeRide : beforeRide.store.Reachable fun _ => True :=
  reachable_storeAfter (by simp [perRideCalls, Operation.Posts])

theorem due_beforeRide :
    (beforeRide.now.date.addDays? InvoicingPolicy.default.paymentTermsDays.toNat).isSome := by
  decide

theorem fresh_beforeRide : beforeRide.Fresh 5 := by
  have hkeys : beforeRide.store.invoices.keys = [] := by decide +kernel
  exact ⟨by decide, fun place _ hmem => by rw [hkeys] at hmem; cases hmem⟩

/-- The entries after a call on the account. -/
def entriesAfter (call : Operation) : Except RangeFault (List LedgerEntry) :=
  ((call.plan .default).run Quiet.world beforeRide).map fun (_, w) => w.store.entries.values

/-- A call with entries to show for it came to its end. -/
theorem exists_run_of_entriesAfter {call : Operation} {entries : List LedgerEntry}
    (h : entriesAfter call = .ok entries) :
    ∃ w', (call.plan .default).run Quiet.world beforeRide = .ok ((), w') ∧
      w'.store.entries.values = entries := by
  rw [entriesAfter] at h
  cases hrun : (call.plan .default).run Quiet.world beforeRide with
  | error fault =>
    rw [hrun] at h
    cases h
  | ok reached =>
    rw [hrun] at h
    exact ⟨reached.2, rfl, Except.ok.inj h⟩

/-- By the engine, the ride gets its invoice. -/
theorem invoicesPerRide_ride :
    beforeRide.store.Reachable (fun _ => True) ∧
    (Operation.recordRideCharge Sample.operator rideRequest).Posts LedgerTransaction.Built ∧
    (beforeRide.now.date.addDays? InvoicingPolicy.default.paymentTermsDays.toNat).isSome ∧
    beforeRide.Fresh 5 ∧
    ∃ w' e, ((Operation.recordRideCharge Sample.operator rideRequest).plan .default).run
        Quiet.world beforeRide = .ok ((), w') ∧
      CameInPerRide beforeRide.store w'.store e ∧ InvoicedAlone beforeRide.store w'.store e := by
  have hentries : entriesAfter (.recordRideCharge Sample.operator rideRequest) =
      .ok [rideDebit ⟨beforeRide.supply.ordered 0⟩ Sample.epoch,
        rideCredit ⟨beforeRide.supply.ordered 1⟩ Sample.epoch] := by decide +kernel
  obtain ⟨w', hrun, hvalues⟩ := exists_run_of_entriesAfter hentries
  have hcame := cameInPerRide_rideDebit hvalues
  have hinvoices := (invoicesPerRide_of_run (.recordRideCharge Sample.operator rideRequest)
    reachable_beforeRide trivial due_beforeRide fresh_beforeRide).2 w' hrun
  exact ⟨reachable_beforeRide, trivial, due_beforeRide, fresh_beforeRide, w', _, hrun, hcame,
    (hinvoices _ hcame).2 ⟨id, by decide⟩⟩

/-- A call after which a charge that came in per ride has no invoice of its own. -/
def LeavesUninvoiced (call : Operation) : Prop :=
  ∃ w' e, (call.plan .default).run Quiet.world beforeRide = .ok ((), w') ∧
    CameInPerRide beforeRide.store w'.store e ∧ ¬InvoicedAlone beforeRide.store w'.store e

/-- The beginning of the last day. -/
def lastMidnight : Instant := Date.midnight { number := lastDay }

/-- The ride on the last day. -/
def lastRide : LedgerTransaction where
  id := ⟨Supply.start.ordered 2⟩
  debit := rideDebit ⟨Supply.start.ordered 0⟩ lastMidnight
  credit := rideCredit ⟨Supply.start.ordered 1⟩ lastMidnight

theorem built_lastRide : lastRide.Built := by
  have hgives : (LedgerTransaction.rideCharge
      { transaction := ⟨Supply.start.ordered 2⟩, debit := ⟨Supply.start.ordered 0⟩
        credit := ⟨Supply.start.ordered 1⟩ }
      Sample.tenant firstAccount "ride-1" Sample.rideFare lastMidnight Sample.operator.actor
      none).Gives lastRide := by decide +kernel
  exact LedgerTransaction.built_of_post (by decide) hgives

/-- **Two ways past the invoice**: the ride is charged by the ledger service, or it is of the last
day, whose period would end after it. -/
theorem leavesUninvoiced_ride :
    LeavesUninvoiced (.ledgerRideCharge Sample.operator rideRequest) ∧
      LeavesUninvoiced (.append Sample.operator lastRide) := by
  constructor
  · have hentries : entriesAfter (.ledgerRideCharge Sample.operator rideRequest) =
        .ok [rideDebit ⟨beforeRide.supply.ordered 0⟩ Sample.epoch,
          rideCredit ⟨beforeRide.supply.ordered 1⟩ Sample.epoch] := by decide +kernel
    obtain ⟨w', hrun, hvalues⟩ := exists_run_of_entriesAfter hentries
    have hcame := cameInPerRide_rideDebit hvalues
    have hinvoices := Operation.invoicesPerRide_of_postsRides
      (.ledgerRideCharge Sample.operator rideRequest) reachable_beforeRide.invoicing trivial
      due_beforeRide fresh_beforeRide trivial hrun
    exact ⟨w', _, hrun, hcame, fun halone => ((hinvoices _ hcame).1 halone).1 trivial⟩
  · have hentries : entriesAfter (.append Sample.operator lastRide) =
        .ok [lastRide.debit, lastRide.credit] := by decide +kernel
    obtain ⟨w', hrun, hvalues⟩ := exists_run_of_entriesAfter hentries
    have hcame := cameInPerRide_rideDebit hvalues
    have hinvoices := Operation.invoicesPerRide_of_postsRides (.append Sample.operator lastRide)
      reachable_beforeRide.invoicing built_lastRide due_beforeRide fresh_beforeRide trivial hrun
    have hlast : ¬lastRide.debit.serviceDate.number < lastDay := by decide
    exact ⟨w', _, hrun, hcame, fun halone => hlast ((hinvoices _ hcame).1 halone).2⟩

end RideLedger
