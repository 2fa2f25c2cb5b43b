import RideLedger.Proofs.Alone
import RideLedger.Proofs.Tracing
import RideLedger.Proofs.TrialBalance

/-!
# Billing — what invoicing an account comes to

Whoever invoices an account alone comes to one of three ends (`Billed`). There is nothing to bill;
or the due date would be out of range; or an invoice of all the selected charges is stored, under
the next number. It never comes to another end as long as the selected charges and payments have
room for their sums (`DraftRequest.Billable`) and the month has a number left, and in a ledger
within its capacity they do. In a month that is used up, giving the next number is a fault
(`Invoices.exists_presented`).

What the invoice bills is settled by what was selected: under other identifiers and another number
it is the same (`Billed.unnamed_eq`).
-/

namespace RideLedger

open MemoryStore
open Money (totalUnits grossUnits)

variable {s : MemoryStore} {ctx : RequestContext} {account : AccountId} {period : BillingPeriod}

/-! ## What is selected -/

namespace MemoryStore

theorem mem_unbilledCharges_iff {e : LedgerEntry} :
    e ∈ s.unbilledCharges ctx account period ↔
      e ∈ s.entries.values ∧ e.tenant = ctx.tenant ∧ e.account = account ∧ e.isBillable = true ∧
        period.contains e.createdAt = true ∧ (ctx.tenant, e.id) ∉ s.billed.keys := by
  rw [unbilledCharges, LedgerEntry.sortByTime, (List.mergeSort_perm ..).mem_iff]
  simp only [accountEntries, tenantEntries, List.mem_filter, decide_eq_true_eq, Bool.and_eq_true,
    Bool.not_eq_true', ← Bool.not_eq_true, WriteOnce.contains_iff, and_assoc]

/-- Selected entries of an account, in order of time, are entries of the tenant. -/
theorem exists_perm_sublist {tenant : TenantId} (p : LedgerEntry → Bool) :
    ∃ own, (LedgerEntry.sortByTime ((s.accountEntries tenant account).filter p)).Perm own ∧
      own.Sublist (s.tenantEntries tenant) :=
  ⟨_, List.mergeSort_perm .., List.filter_sublist.trans List.filter_sublist⟩

/-- The charges that are selected are different entries. -/
theorem unbilledCharges_nodup (hfiled : s.Filed) :
    ((s.unbilledCharges ctx account period).map (·.id)).Nodup := by
  obtain ⟨own, hperm, hsublist⟩ :
      ∃ own, (s.unbilledCharges ctx account period).Perm own ∧ own.Sublist _ :=
    exists_perm_sublist _
  have hown : own.Sublist s.entries.values := hsublist.trans List.filter_sublist
  exact ((hperm.map _).nodup_iff).2 ((hown.map _).nodup hfiled.ids_nodup)

/-- The sizes of charges and payments that are selected have room for each other. -/
theorem grossUnits_selected_lt (hroom : Roomy (s.tenantEntries ctx.tenant)) :
    grossUnits ((s.unbilledCharges ctx account period).map (·.debitAmount)) +
      grossUnits ((s.paymentsInPeriod ctx account period).map (·.creditAmount)) <
      Decimal.mantissaBound := by
  obtain ⟨charges, hcharges, hcharged⟩ :
      ∃ own, (s.unbilledCharges ctx account period).Perm own ∧ own.Sublist _ :=
    exists_perm_sublist _
  obtain ⟨payments, hpayments, hpaid⟩ :
      ∃ own, (s.paymentsInPeriod ctx account period).Perm own ∧ own.Sublist _ :=
    exists_perm_sublist _
  have hdebits : grossUnits ((s.unbilledCharges ctx account period).map (·.debitAmount)) ≤
      grossUnits ((s.tenantEntries ctx.tenant).map (·.debitAmount)) := by
    rw [Money.grossUnits_perm (hcharges.map _)]
    exact Money.grossUnits_le_of_sublist (hcharged.map _)
  have hcredits : grossUnits ((s.paymentsInPeriod ctx account period).map (·.creditAmount)) ≤
      grossUnits ((s.tenantEntries ctx.tenant).map (·.creditAmount)) := by
    rw [Money.grossUnits_perm (hpayments.map _)]
    exact Money.grossUnits_le_of_sublist (hpaid.map _)
  exact Nat.lt_of_le_of_lt (Nat.add_le_add hdebits hcredits) hroom.both

end MemoryStore

/-- A request whose sums are in range, whatever identifiers its lines get. -/
def DraftRequest.Summable (r : DraftRequest) : Prop :=
  ∀ ids, ∃ subtotal paid rest,
    Money.sum ((InvoiceDraft.linesOf ids r.charges).map (·.amount)) = .ok subtotal ∧
    Money.sum ((r.payments.filter (InvoiceDraft.counts r)).map (·.creditAmount)) = .ok paid ∧
    subtotal.sub paid = .ok rest

/-- A request for a draft of charges that a store can bill, and whose sums are in range. -/
structure DraftRequest.Presentable (s : MemoryStore) (r : DraftRequest) : Prop where
  stored : ∀ charge ∈ r.charges, charge ∈ s.entries.values
  unbilled : ∀ charge ∈ r.charges, (r.tenant, charge.id) ∉ s.billed.keys
  chargeable : ∀ charge ∈ r.charges, InvoiceDraft.Chargeable r charge
  nodup : (r.charges.map (·.id)).Nodup
  sums : r.Summable

/-- And whose charges and payments have room for each other, so that the sums are exact. -/
structure DraftRequest.Billable (s : MemoryStore) (r : DraftRequest) : Prop
    extends r.Presentable s where
  room : grossUnits (r.charges.map (·.debitAmount)) +
    grossUnits (r.payments.map (·.creditAmount)) < Decimal.mantissaBound

/-! ## Drafts of what is selected -/

namespace InvoiceDraft

variable {ids : DraftIds} {r : DraftRequest} {d : InvoiceDraft}

/-- The sums of a request whose charges and payments have room are exact, and so is what is
left. -/
theorem exists_sums (hroom : grossUnits (r.charges.map (·.debitAmount)) +
    grossUnits (r.payments.map (·.creditAmount)) < Decimal.mantissaBound) (ids : DraftIds) :
    ∃ subtotal paid rest, Money.sum ((linesOf ids r.charges).map (·.amount)) = .ok subtotal ∧
      Money.sum ((r.payments.filter (counts r)).map (·.creditAmount)) = .ok paid ∧
      subtotal.sub paid = .ok rest ∧
      subtotal.units = totalUnits (r.charges.map (·.debitAmount)) ∧
      paid.units = totalUnits ((r.payments.filter (counts r)).map (·.creditAmount)) ∧
      rest.units = subtotal.units - paid.units := by
  have hlines : ((linesOf ids r.charges).map (·.amount)).Perm (r.charges.map (·.debitAmount)) :=
    linesOf_map_perm (·.amount) (·.debitAmount) fun _ _ _ => rfl
  have hsize := Money.grossUnits_perm hlines
  have hpaid : grossUnits ((r.payments.filter (counts r)).map (·.creditAmount)) ≤
      grossUnits (r.payments.map (·.creditAmount)) :=
    Money.grossUnits_le_of_sublist (List.filter_sublist.map _)
  have hbilled : grossUnits ((linesOf ids r.charges).map (·.amount)) < Decimal.mantissaBound := by
    omega
  have hcounted : grossUnits ((r.payments.filter (counts r)).map (·.creditAmount)) <
      Decimal.mantissaBound := by omega
  obtain ⟨subtotal, hsubtotal, hsubunits⟩ := Money.sum_exact hbilled
  obtain ⟨paid, hpayments, hpaidunits⟩ := Money.sum_exact hcounted
  have hleft : (subtotal.units - paid.units).natAbs < Decimal.mantissaBound := by
    have hfirst : subtotal.units.natAbs ≤
        grossUnits ((linesOf ids r.charges).map (·.amount)) :=
      hsubunits ▸ Money.natAbs_totalUnits_le
    have hsecond : paid.units.natAbs ≤
        grossUnits ((r.payments.filter (counts r)).map (·.creditAmount)) :=
      hpaidunits ▸ Money.natAbs_totalUnits_le
    omega
  obtain ⟨rest, hrest, hrestunits⟩ := Money.sub_exact hleft
  exact ⟨subtotal, paid, rest, hsubtotal, hpayments, hrest,
    hsubunits.trans (Money.totalUnits_perm hlines), hpaidunits, hrestunits⟩

/-- Without charges there is no draft. -/
theorem assemble_of_nil (h : r.charges = []) :
    (assemble ids r).run =
      .ok (.error (.noUnbilledCharges r.account r.period.start r.period.finish)) := by
  unfold assemble
  rw [if_pos h]
  rfl

/-- Nor is there one without a due date. -/
theorem assemble_of_no_due (h : r.Presentable s) (hcharges : r.charges ≠ [])
    (hdue : r.issueDate.addDays? r.paymentTermsDays = none) :
    (assemble ids r).run = .ok (.error (.validation .dueDateOutOfRange)) := by
  obtain ⟨subtotal, paid, -, hsubtotal, hpaid, -⟩ := h.sums ids
  have hfault : firstFault? r [] r.charges = none :=
    firstFault?_eq_none_iff.2 ⟨h.chargeable, h.nodup, by simp⟩
  unfold assemble
  rw [if_neg hcharges, hfault]
  simp only [hsubtotal, hpaid, hdue]
  rfl

/-- **With both there is one**, and its outstanding sum is in range. -/
theorem exists_draft (h : r.Presentable s) (hcharges : r.charges ≠ []) {due : Date}
    (hdue : r.issueDate.addDays? r.paymentTermsDays = some due) (ids : DraftIds) :
    ∃ d rest, (assemble ids r).Gives d ∧ d.subtotal.sub d.paymentsApplied = .ok rest ∧
      d.id = ids.invoice ∧ d.tenant = r.tenant ∧ d.account = r.account ∧
      d.issueDate = r.issueDate ∧ d.entryIds.Perm (r.charges.map (·.id)) := by
  obtain ⟨subtotal, paid, rest, hsubtotal, hpaid, hrest⟩ := h.sums ids
  have hfault : firstFault? r [] r.charges = none :=
    firstFault?_eq_none_iff.2 ⟨h.chargeable, h.nodup, by simp⟩
  exact ⟨ofSums ids r subtotal paid due, rest,
    assemble_gives_iff.2 ⟨hcharges, hfault, subtotal, paid, due, hsubtotal, hpaid, hdue, rfl⟩,
    hrest, rfl, rfl, rfl, rfl, linesOf_map_perm (·.entry) (·.id) fun _ _ _ => rfl⟩

end InvoiceDraft

/-- What has room has sums in range. -/
theorem DraftRequest.summable_of_room {r : DraftRequest}
    (hroom : grossUnits (r.charges.map (·.debitAmount)) +
      grossUnits (r.payments.map (·.creditAmount)) < Decimal.mantissaBound) : r.Summable := by
  intro ids
  obtain ⟨subtotal, paid, rest, hsubtotal, hpaid, hrest, -⟩ := InvoiceDraft.exists_sums hroom ids
  exact ⟨subtotal, paid, rest, hsubtotal, hpaid, hrest⟩

/-- **What is selected can be billed**, all of it or a part. -/
theorem billable_of_selected {r : DraftRequest} (hfiled : s.Filed)
    (hroom : Roomy (s.tenantEntries ctx.tenant)) (htenant : r.tenant = ctx.tenant)
    (hcharges : r.charges.Sublist (s.unbilledCharges ctx r.account r.period))
    (hpayments : r.payments.Sublist (s.paymentsInPeriod ctx r.account r.period)) :
    r.Billable s := by
  have hselected {charge : LedgerEntry} (hcharge : charge ∈ r.charges) :=
    mem_unbilledCharges_iff.1 (hcharges.subset hcharge)
  have hrooms : grossUnits (r.charges.map (·.debitAmount)) +
      grossUnits (r.payments.map (·.creditAmount)) < Decimal.mantissaBound :=
    Nat.lt_of_le_of_lt
      (Nat.add_le_add (Money.grossUnits_le_of_sublist (hcharges.map _))
        (Money.grossUnits_le_of_sublist (hpayments.map _)))
      (grossUnits_selected_lt hroom)
  refine
    { stored := fun charge hcharge => (hselected hcharge).1, unbilled := fun charge hcharge => ?_
      chargeable := fun charge hcharge => ?_
      nodup := (hcharges.map _).nodup (unbilledCharges_nodup hfiled)
      sums := DraftRequest.summable_of_room hrooms, room := hrooms }
  · obtain ⟨-, -, -, -, -, hunbilled⟩ := hselected hcharge
    rw [htenant]
    exact hunbilled
  · obtain ⟨-, hown, haccount, hbillable, hperiod, -⟩ := hselected hcharge
    exact ⟨hown.trans htenant.symm, haccount, hbillable, hperiod⟩

/-! ## Storing a draft -/

namespace MemoryStore

variable {d : InvoiceDraft} {r : DraftRequest}

/-- A draft that the store has numbered is refused when its identifier is taken, or else when the
request was cancelled. -/
theorem insertInvoice_numbered {i : Invoice} (cancelled : Bool) (event : EventId)
    (hdraft : s.draftFault? ctx d = none) (hnodup : d.entryIds.Nodup)
    (hi : s.numbered ctx d = .ok i) (hnumbered : s.Numbered) :
    s.insertInvoice cancelled ctx d event =
      .ok (if d.id ∈ s.invoices.keys then (.error (.immutable "Invoice" d.id.toText), s)
        else if cancelled then (.error .cancelled, s)
        else (.ok i, s.invoiced ctx (s.nextSequence ctx d.issueDate) i event)) := by
  have hnumber : ¬(s.invoices.values.any fun j =>
      j.tenant = ctx.tenant && j.number = i.number) = true := by
    simpa using hnumbered.free hi
  rw [insertInvoice_of_nodup hnodup, hdraft]
  simp only [hi, Except.map, invoiceFault?, if_neg hnumber, WriteOnce.contains_iff,
    (numbers_of_numbered hi).id]
  by_cases hid : d.id ∈ s.invoices.keys
  · simp only [hid, ↓reduceIte]
  · cases cancelled <;> simp only [hid, ↓reduceIte, Bool.false_eq_true]

/-- **A draft that the store has nothing against is written**, under the next number, if there is
one. -/
theorem insertInvoice_new {rest : Money} (event : EventId) (hdraft : s.draftFault? ctx d = none)
    (hnodup : d.entryIds.Nodup) (hrest : d.subtotal.sub d.paymentsApplied = .ok rest)
    (hleft : s.lastSequence ctx d.issueDate + 1 < 2 ^ 32) (hnumbered : s.Numbered)
    (hnew : d.id ∉ s.invoices.keys) :
    ∃ i, s.numbered ctx d = .ok i ∧ s.insertInvoice false ctx d event =
      .ok (.ok i, s.invoiced ctx (s.nextSequence ctx d.issueDate) i event) := by
  obtain ⟨i, hi⟩ : ∃ i, s.numbered ctx d = .ok i := exists_numbered hleft hrest
  refine ⟨i, hi, ?_⟩
  rw [insertInvoice_numbered false event hdraft hnodup hi hnumbered, if_neg hnew]
  rfl

/-- The store has nothing against a draft of charges that it can bill. -/
theorem draftFault?_of_presentable (h : r.Presentable s) (hfiled : s.Filed)
    (hrequest : r.tenant = ctx.tenant) (htenant : d.tenant = r.tenant)
    (haccount : d.account = r.account) (hentries : d.entryIds.Perm (r.charges.map (·.id))) :
    s.draftFault? ctx d = none := by
  refine draftFault?_eq_none_iff.2 ⟨htenant.trans hrequest, fun e he => ?_⟩
  obtain ⟨charge, hcharge, rfl⟩ := List.mem_map.1 (hentries.mem_iff.1 he)
  have hget := hfiled.get?_eq_some_iff.2 ⟨h.stored charge hcharge, rfl⟩
  have hchargeable := h.chargeable charge hcharge
  rw [← hrequest]
  exact ⟨⟨charge, hget, hchargeable.tenant, hchargeable.account.trans haccount.symm⟩,
    h.unbilled charge hcharge⟩

end MemoryStore

/-! ## Billing alone -/

/-- The identifiers of the next draft. -/
def Supply.draftIds (supply : Supply) : DraftIds :=
  { invoice := ⟨supply.ordered 0⟩, line := fun i => ⟨supply.ordered (i + 1)⟩ }

/-- What becomes of a request for a draft: there is nothing to bill, or no due date, or an invoice
is stored. -/
inductive Billed (ctx : RequestContext) (r : DraftRequest) (w : Quiet) :
    Except BillingError Invoice → Quiet → Prop
  | nothing (empty : r.charges = []) :
      Billed ctx r w (.error (.noUnbilledCharges r.account r.period.start r.period.finish))
        { w with supply := w.supply.advance 1 }
  | overdue (some : r.charges ≠ []) (late : r.issueDate.addDays? r.paymentTermsDays = none) :
      Billed ctx r w (.error (.validation .dueDateOutOfRange))
        { w with supply := w.supply.advance (r.charges.length + 1) }
  | issued {d : InvoiceDraft} {i : Invoice} {event : EventId}
      (draft : (InvoiceDraft.assemble w.supply.draftIds r).Gives d)
      (numbered : w.store.numbered ctx d = .ok i)
      (written : w.store.insertInvoice false ctx d event = .ok (.ok i,
        w.store.invoiced ctx (w.store.nextSequence ctx d.issueDate) i event)) :
      Billed ctx r w (.ok i)
        { w with
          supply := w.supply.advance (r.charges.length + 2)
          store := w.store.invoiced ctx (w.store.nextSequence ctx d.issueDate) i event }

/-- The state in which a draft comes to the store: its identifiers are drawn, and that of its
event. -/
def Quiet.drafted (w : Quiet) (r : DraftRequest) : Quiet := w.drawn (r.charges.length + 2)

/-- What becomes of a request for a draft where the identifier for the invoice may be taken, and the
request may be cancelled by the time that the draft comes to the store. -/
inductive Presented (token : Quiet → Bool) (ctx : RequestContext) (r : DraftRequest) (w : Quiet) :
    Except BillingError Invoice → Quiet → Prop
  | nothing (empty : r.charges = []) :
      Presented token ctx r w
        (.error (.noUnbilledCharges r.account r.period.start r.period.finish))
        { w with supply := w.supply.advance 1 }
  | overdue (some : r.charges ≠ []) (late : r.issueDate.addDays? r.paymentTermsDays = none) :
      Presented token ctx r w (.error (.validation .dueDateOutOfRange))
        { w with supply := w.supply.advance (r.charges.length + 1) }
  | taken (some : r.charges ≠ []) (due : (r.issueDate.addDays? r.paymentTermsDays).isSome)
      (old : (⟨w.supply.ordered 0⟩ : InvoiceId) ∈ w.store.invoices.keys) :
      Presented token ctx r w
        (.error (.ofStoreFault (.immutable "Invoice" (⟨w.supply.ordered 0⟩ : InvoiceId).toText)))
        (w.drafted r)
  | stopped (some : r.charges ≠ []) (due : (r.issueDate.addDays? r.paymentTermsDays).isSome)
      (new : (⟨w.supply.ordered 0⟩ : InvoiceId) ∉ w.store.invoices.keys)
      (ended : token (w.drafted r) = true) :
      Presented token ctx r w (.error .cancelled) (w.drafted r)
  | issued {i : Invoice} {w' : Quiet}
      (new : (⟨w.supply.ordered 0⟩ : InvoiceId) ∉ w.store.invoices.keys)
      (live : token (w.drafted r) = false) (billed : Billed ctx r w (.ok i) w') :
      Presented token ctx r w (.ok i) w'

/-- Under a new identifier and with nobody to cancel, a request is billed. -/
theorem Presented.billed {r : DraftRequest} {w w' : Quiet} {result : Except BillingError Invoice}
    (h : Presented (fun _ => false) ctx r w result w')
    (hnew : (⟨w.supply.ordered 0⟩ : InvoiceId) ∉ w.store.invoices.keys) :
    Billed ctx r w result w' := by
  cases h with
  | nothing empty => exact .nothing empty
  | overdue some late => exact .overdue some late
  | taken _ _ old => exact absurd old hnew
  | stopped _ _ _ ended => cases ended
  | issued _ _ billed => exact billed

namespace Invoices

variable {token : Quiet → Bool}
variable {policy : InvoicingPolicy} {charges payments : List LedgerEntry} {options : InvoiceOptions}
  {w : Quiet} {id : AccountId}

/-- What a draft is asked of. -/
def draftRequest (policy : InvoicingPolicy) (ctx : RequestContext) (account : AccountId)
    (period : BillingPeriod) (charges payments : List LedgerEntry) (options : InvoiceOptions)
    (now : Instant) : DraftRequest :=
  { tenant := ctx.tenant, account := account, period := period
    issueDate := options.issueDate.getD now.date
    paymentTermsDays := (options.paymentTermsDays.getD policy.paymentTermsDays).toNat
    charges := charges, payments := payments, generatedAt := now, generatedBy := ctx.actor }

/-- What invoicing an account asks a draft of. -/
def selection (policy : InvoicingPolicy) (ctx : RequestContext) (id : AccountId)
    (period : BillingPeriod) (options : InvoiceOptions) (w : Quiet) : DraftRequest :=
  draftRequest policy ctx id period (w.store.unbilledCharges ctx id period)
    (w.store.paymentsInPeriod ctx id period) options w.now

theorem runsAttended_draft {result : Except BillingError InvoiceDraft}
    (h : (InvoiceDraft.assemble w.supply.draftIds
      (draftRequest policy ctx account period charges payments options w.now)).run = .ok result) :
    RunsAttended token (draft policy ctx account period charges payments options) w result
      { w with supply := w.supply.advance (charges.length + 1) } :=
  (run_bind_of_ok runsAttended_now).trans
    ((run_bind_of_ok runsAttended_fresh).trans (runsAttended_ofOutcome h))

/-- What the store answers to a draft is what the request comes to. -/
theorem runsAttended_put {d : InvoiceDraft} {cancelled : Bool}
    {reply : Except StoreFault Invoice} {s : MemoryStore}
    (hd : (InvoiceDraft.assemble w.supply.draftIds
      (draftRequest policy ctx account period charges payments options w.now)).Gives d)
    (htoken : token (w.drawn (charges.length + 2)) = cancelled)
    (hreply : w.store.insertInvoice cancelled ctx d
      ⟨(w.supply.advance (charges.length + 1)).ordered 0⟩ = .ok (reply, s)) :
    RunsAttended token (draft policy ctx account period charges payments options >>= persist ctx) w
      (reply.mapError .ofStoreFault)
      { w with supply := w.supply.advance (charges.length + 2), store := s } := by
  subst htoken
  refine (run_bind_of_ok (runsAttended_draft hd)).trans
    ((run_bind_of_ok runsAttended_freshId).trans ?_)
  cases reply with
  | ok i => exact runsAttended_demand hreply
  | error fault => exact runsAttended_demand_error hreply

/-- **A draft of charges that can be billed is decided by the store**: by the identifier, and by the
token. Where it would be numbered in a month that is used up, it is not decided. -/
theorem exists_put (token : Quiet → Bool) {r : DraftRequest}
    (hr : draftRequest policy ctx account period charges payments options w.now = r)
    (h : r.Presentable w.store) (hcharges : r.charges ≠ []) {due : Date}
    (hdue : r.issueDate.addDays? r.paymentTermsDays = some due) (hfiled : w.store.Filed)
    (hnumbered : w.store.Numbered) :
    (∃ result w', RunsAttended token
      (draft policy ctx account period charges payments options >>= persist ctx) w result w' ∧
      Presented token ctx r w result w') ∨
    (w.store.UsedUp ctx r.issueDate ∧ FaultsAttended token
      (draft policy ctx account period charges payments options >>= persist ctx) w .sequence) := by
  subst hr
  have hsome := Option.isSome_of_eq_some hdue
  obtain ⟨d, rest, hd, hrest, hid, htenant, haccount, hissue, hentries⟩ :=
    InvoiceDraft.exists_draft h hcharges hdue w.supply.draftIds
  have hdraft : w.store.draftFault? ctx d = none :=
    draftFault?_of_presentable h hfiled rfl htenant haccount hentries
  have hnodup : d.entryIds.Nodup := hentries.nodup_iff.2 h.nodup
  rcases lastSequence_lt_or_usedUp ctx d.issueDate w.store with hleft | hused
  swap
  · refine .inr ⟨hissue ▸ hused, faultsAttended_bind (runsAttended_draft hd)
      (faultsAttended_bind runsAttended_freshId (faultsAttended_demand ?_))⟩
    exact insertInvoice_of_usedUp _ _ hdraft hused
  refine .inl ?_
  obtain ⟨i, hi⟩ : ∃ i, w.store.numbered ctx d = .ok i := exists_numbered hleft hrest
  have hinsert (cancelled : Bool) := insertInvoice_numbered cancelled
    ⟨(w.supply.advance (charges.length + 1)).ordered 0⟩ hdraft hnodup hi hnumbered
  rw [hid] at hinsert
  by_cases hold : (⟨w.supply.ordered 0⟩ : InvoiceId) ∈ w.store.invoices.keys
  · simp only [Supply.draftIds, hold, ↓reduceIte] at hinsert
    exact ⟨_, _, runsAttended_put hd rfl (hinsert _), .taken hcharges hsome hold⟩
  simp only [Supply.draftIds, hold, ↓reduceIte] at hinsert
  -- the draft is the same whatever the token tells of the state that it is put to
  cases htoken : token (w.drawn (charges.length + 2)) with
  | true =>
    exact ⟨_, _, runsAttended_put hd htoken (hinsert true),
      .stopped hcharges hsome hold htoken⟩
  | false =>
    exact ⟨_, _, runsAttended_put hd htoken (hinsert false),
      .issued hold htoken (.issued hd hi (hinsert false))⟩

/-- **A request of charges that can be billed is decided**: by whether there are any, by the due
date, and by the store. Only a month that is used up leaves it undecided. -/
theorem exists_presented (token : Quiet → Bool) {r : DraftRequest}
    (hr : draftRequest policy ctx account period charges payments options w.now = r)
    (h : r.Presentable w.store) (hfiled : w.store.Filed) (hnumbered : w.store.Numbered) :
    (∃ result w', RunsAttended token
      (draft policy ctx account period charges payments options >>= persist ctx) w result w' ∧
      Presented token ctx r w result w') ∨
    (w.store.UsedUp ctx r.issueDate ∧ FaultsAttended token
      (draft policy ctx account period charges payments options >>= persist ctx) w .sequence) := by
  by_cases hcharges : r.charges = []
  · subst hr hcharges
    exact .inl ⟨_, _, run_bind_of_error (runsAttended_draft (InvoiceDraft.assemble_of_nil rfl)),
      .nothing rfl⟩
  cases hdue : r.issueDate.addDays? r.paymentTermsDays with
  | none =>
    subst hr
    exact .inl ⟨_, _,
      run_bind_of_error (runsAttended_draft (InvoiceDraft.assemble_of_no_due h hcharges hdue)),
      .overdue hcharges hdue⟩
  | some due => exact exists_put token hr h hcharges hdue hfiled hnumbered

/-- **Invoicing an account that is there is a request for a draft of what is selected**, in a month
that has a number left. -/
theorem exists_requested (token : Quiet → Bool) (policy : InvoicingPolicy)
    (period : BillingPeriod) (options : InvoiceOptions) {a : Account}
    (ha : w.store.account? ctx.tenant id = some a) (hfiled : w.store.Filed)
    (hnumbered : w.store.Numbered) (hroom : Roomy (w.store.tenantEntries ctx.tenant))
    (hleft : w.store.lastSequence ctx (options.issueDate.getD w.now.date) + 1 < 2 ^ 32) :
    ∃ result w', RunsAttended token (generate policy ctx id period options) w result w' ∧
      Presented token ctx (selection policy ctx id period options w) w result w' := by
  have hbillable : (selection policy ctx id period options w).Billable w.store :=
    billable_of_selected hfiled hroom rfl (List.Sublist.refl _) (List.Sublist.refl _)
  have hrequest : draftRequest policy ctx id period (w.store.unbilledCharges ctx id period)
      (w.store.paymentsInPeriod ctx id period) options w.now =
        selection policy ctx id period options w := rfl
  obtain ⟨result, w', hruns, hpresented⟩ :=
    (exists_presented token hrequest hbillable.toPresentable hfiled hnumbered).resolve_right
      fun hused => Nat.ne_of_lt hleft hused.1
  refine ⟨result, w', (run_bind_of_ok (runsAttended_get ha)).trans ?_, hpresented⟩
  rw [id_of_account? ha]
  exact (run_bind_of_ok (runsAttended_demand rfl)).trans
    ((run_bind_of_ok (runsAttended_demand rfl)).trans hruns)

/-- **With nobody to cancel, it is billing what is selected.** -/
theorem exists_generated {a : Account} (ha : w.store.account? ctx.tenant id = some a)
    (hfiled : w.store.Filed) (hnumbered : w.store.Numbered)
    (hroom : Roomy (w.store.tenantEntries ctx.tenant))
    (hleft : w.store.lastSequence ctx (options.issueDate.getD w.now.date) + 1 < 2 ^ 32)
    (hnew : (⟨w.supply.ordered 0⟩ : InvoiceId) ∉ w.store.invoices.keys) :
    ∃ result w', Runs (generate policy ctx id period options) w result w' ∧
      Billed ctx (selection policy ctx id period options w) w result w' := by
  obtain ⟨result, w', hruns, hpresented⟩ :=
    exists_requested (fun _ => false) policy period options ha hfiled hnumbered hroom hleft
  exact ⟨result, w', hruns.heeding.runs, hpresented.billed hnew⟩

end Invoices

/-! ## What billing leaves behind -/

/-- The next identifiers of the supply, as many, are those of no invoice. -/
def Quiet.Fresh (w : Quiet) (count : Nat) : Prop :=
  count ≤ 2 ^ 128 ∧
    ∀ place < count, (⟨w.supply.ordered place⟩ : InvoiceId) ∉ w.store.invoices.keys

theorem Quiet.Fresh.mono {w : Quiet} {count less : Nat} (h : w.Fresh count) (hless : less ≤ count) :
    w.Fresh less :=
  ⟨Nat.le_trans hless h.1, fun place hplace => h.2 place (Nat.lt_of_lt_of_le hplace hless)⟩

/-- The identifiers after some are drawn are those behind them. -/
theorem Supply.ordered_advance (supply : Supply) (used place : Nat) :
    (supply.advance used).ordered place = supply.ordered (used + place) := by
  have hplace : firstOrdered + (supply.given + used) + place =
      firstOrdered + supply.given + (used + place) := by omega
  exact congrArg Uuid.ofNat hplace

/-- Identifiers stay new while only one invoice is stored, under the first of those drawn. -/
theorem Quiet.Fresh.advance {w w' : Quiet} {count used rest : Nat} (h : w.Fresh count)
    (hused : 0 < used) (hcount : used + rest ≤ count)
    (hsupply : w'.supply = w.supply.advance used)
    (hkeys : ∀ id ∈ w'.store.invoices.keys,
      id ∈ w.store.invoices.keys ∨ id = ⟨w.supply.ordered 0⟩) : w'.Fresh rest := by
  obtain ⟨hbound, hnew⟩ := h
  refine ⟨by omega, fun place hplace hmem => ?_⟩
  rw [hsupply, Supply.ordered_advance] at hmem
  rcases hkeys _ hmem with hold | hfirst
  · exact hnew (used + place) (by omega) hold
  · have hsame := Quiet.ordered_inj hbound (by omega) (by omega) (congrArg Id.uuid hfirst)
    omega

/-- A line without identifiers of its own. -/
def InvoiceLine.unnamed (l : InvoiceLine) : InvoiceLine :=
  { l with id := ⟨.nil⟩, invoice := ⟨.nil⟩ }

/-- An invoice without its number and without identifiers of its own. -/
def Invoice.unnamed (i : Invoice) : Invoice :=
  { i with id := ⟨.nil⟩, number := ⟨""⟩, lines := i.lines.map (·.unnamed) }

/-- The lines of charges differ in their identifiers only. -/
theorem InvoiceDraft.linesOf_unnamed {ids : DraftIds} {charges : List LedgerEntry} :
    (linesOf ids charges).map (·.unnamed) =
      (charges.map (InvoiceLine.ofCharge ⟨.nil⟩ ⟨.nil⟩)).mergeSort InvoiceLine.dateLe := by
  have hlines : (charges.mapIdx fun i c => InvoiceLine.ofCharge (ids.line i) ids.invoice c).map
      (·.unnamed) = charges.map (InvoiceLine.ofCharge ⟨.nil⟩ ⟨.nil⟩) :=
    List.ext_getElem (by simp) fun i _ _ => by simp [InvoiceLine.unnamed, InvoiceLine.ofCharge]
  rw [linesOf, List.map_mergeSort (f := InvoiceLine.unnamed) (r := InvoiceLine.dateLe)
    (s := InvoiceLine.dateLe) fun _ _ _ _ => rfl, hlines]

namespace Billed

variable {r : DraftRequest} {w w' : Quiet} {result : Except BillingError Invoice}

theorem now_eq (h : Billed ctx r w result w') : w'.now = w.now := by
  cases h <;> rfl

theorem accounts_eq (h : Billed ctx r w result w') : w'.store.accounts = w.store.accounts := by
  cases h <;> rfl

theorem entries_eq (h : Billed ctx r w result w') : w'.store.entries = w.store.entries := by
  cases h <;> rfl

/-- **Billing that fails leaves the store as it was.** -/
theorem store_eq_of_error {x : BillingError} (h : Billed ctx r w (.error x) w') :
    w'.store = w.store := by
  cases h <;> rfl

/-- Where nothing is selected, there is nothing to bill. -/
theorem error_of_nil (h : Billed ctx r w result w') (hcharges : r.charges = []) :
    result = .error (.noUnbilledCharges r.account r.period.start r.period.finish) := by
  cases h with
  | nothing => rfl
  | overdue hsome => exact absurd hcharges hsome
  | issued hdraft => exact absurd hcharges (InvoiceDraft.assemble_gives_iff.1 hdraft).1

/-- What billing wrote, the store wrote on request. -/
theorem commit (h : Billed ctx r w result w') :
    ∃ request, Commit false w.store request w'.store := by
  cases h with
  | nothing => exact ⟨.findAccount ctx r.account, .unchanged⟩
  | overdue => exact ⟨.findAccount ctx r.account, .unchanged⟩
  | issued hdraft hnumbered hwritten => exact ⟨_, commit_of_insertInvoice hwritten⟩

theorem filed (h : Billed ctx r w result w') (hfiled : w.store.Filed) : w'.store.Filed := by
  obtain ⟨request, hcommit⟩ := h.commit
  exact hcommit.filed hfiled

/-- The lines of a stored draft are for the charges of its request. -/
theorem lines_perm {d : InvoiceDraft} {i : Invoice} {ids : DraftIds}
    (hdraft : (InvoiceDraft.assemble ids r).Gives d) (hnumbered : s.numbered ctx d = .ok i) :
    (i.lines.map (·.entry)).Perm (r.charges.map (·.id)) := by
  obtain ⟨-, -, subtotal, paid, due, -, -, -, rfl⟩ := InvoiceDraft.assemble_gives_iff.1 hdraft
  rw [(numbers_of_numbered hnumbered).entries]
  exact InvoiceDraft.linesOf_map_perm (·.entry) (·.id) fun _ _ _ => rfl

/-- The invoice is stored. -/
theorem invoices_eq {i : Invoice} (h : Billed ctx r w (.ok i) w') :
    w'.store.invoices = w.store.invoices.extend [(i.id, i)] := by
  cases h
  rfl

/-- The invoice is new. -/
theorem new_of_ok {i : Invoice} (h : Billed ctx r w (.ok i) w') (hfiled : w.store.Filed) :
    i ∉ w.store.invoices.values := fun hi => by
  have hnodup := (h.filed hfiled).invoices_nodup
  rw [h.invoices_eq, WriteOnce.extend_keys, List.nodup_append] at hnodup
  have hkey : i.id ∈ w.store.invoices.keys := by
    rw [← WriteOnce.values_map_own hfiled.invoices_own]
    exact List.mem_map_of_mem hi
  exact hnodup.2.2 _ hkey _ (List.mem_singleton_self _) rfl

/-- The invoice is for the account and the charges of its request. -/
theorem bills_request {i : Invoice} (h : Billed ctx r w (.ok i) w') :
    i.tenant = r.tenant ∧ i.account = r.account ∧
      (i.lines.map (·.entry)).Perm (r.charges.map (·.id)) := by
  cases h with
  | issued hdraft hnumbered =>
    have hlines := lines_perm hdraft hnumbered
    obtain ⟨-, -, subtotal, paid, due, -, -, -, rfl⟩ := InvoiceDraft.assemble_gives_iff.1 hdraft
    have hnumbers := numbers_of_numbered hnumbered
    exact ⟨hnumbers.tenant, hnumbers.account, hlines⟩

/-- Each line of the invoice bills one of the charges. -/
theorem lines_bill {i : Invoice} (h : Billed ctx r w (.ok i) w') :
    ∀ l ∈ i.lines, l.invoice = i.id ∧ ∃ charge ∈ r.charges,
      l.entry = charge.id ∧ l.Bills r.tenant r.account r.period charge := by
  cases h with
  | issued hdraft hnumbered =>
    have hlines := (InvoiceDraft.lines_of_assemble hdraft).2
    have hnumbers := numbers_of_numbered hnumbered
    obtain ⟨-, -, subtotal, paid, due, -, -, -, rfl⟩ := InvoiceDraft.assemble_gives_iff.1 hdraft
    rw [hnumbers.lines, hnumbers.id]
    exact hlines

/-- The invoice is of the day that was asked for, and due when its terms end. -/
theorem dates {i : Invoice} (h : Billed ctx r w (.ok i) w') :
    i.period = r.period ∧ i.issueDate = r.issueDate ∧
      r.issueDate.addDays? r.paymentTermsDays = some i.dueDate := by
  cases h with
  | issued hdraft hnumbered =>
    obtain ⟨-, -, subtotal, paid, due, -, -, hdue, rfl⟩ :=
      InvoiceDraft.assemble_gives_iff.1 hdraft
    obtain ⟨rest, -, hi⟩ := bind_eq_ok.1 (numbered_eq_ok_iff.1 hnumbered).2
    obtain rfl := Except.ok.inj hi
    exact ⟨rfl, rfl, hdue⟩

/-- The sums of the invoice are those of its charges and of the payments that count. -/
theorem sums {i : Invoice} (h : Billed ctx r w (.ok i) w') :
    Money.sum (i.lines.map (·.amount)) = .ok i.subtotal ∧
      Money.sum ((r.payments.filter (InvoiceDraft.counts r)).map (·.creditAmount)) =
        .ok i.paymentsApplied ∧
      i.subtotal.sub i.paymentsApplied = .ok i.outstanding := by
  cases h with
  | issued hdraft hnumbered =>
    have hnumbers := numbers_of_numbered hnumbered
    obtain ⟨-, -, subtotal, paid, due, hsubtotal, hpaid, -, rfl⟩ :=
      InvoiceDraft.assemble_gives_iff.1 hdraft
    rw [hnumbers.lines, hnumbers.subtotal, hnumbers.paymentsApplied]
    exact ⟨hsubtotal, hpaid, hnumbers.outstanding⟩

/-- With room they are exact. -/
theorem sums_exact {i : Invoice} (h : Billed ctx r w (.ok i) w') (hbillable : r.Billable w.store) :
    i.subtotal.units = totalUnits (i.lines.map (·.amount)) ∧
      i.paymentsApplied.units =
        totalUnits ((r.payments.filter (InvoiceDraft.counts r)).map (·.creditAmount)) ∧
      i.outstanding.units = i.subtotal.units - i.paymentsApplied.units := by
  cases h with
  | issued hdraft hnumbered =>
    have hnumbers := numbers_of_numbered hnumbered
    obtain ⟨-, -, subtotal, paid, due, hsubtotal, hpaid, -, rfl⟩ :=
      InvoiceDraft.assemble_gives_iff.1 hdraft
    obtain ⟨subtotal', paid', rest, hsubtotal', hpaid', hrest, hsubunits, hpaidunits, hrestunits⟩ :=
      InvoiceDraft.exists_sums hbillable.room w.supply.draftIds
    obtain rfl : subtotal' = subtotal := Except.ok.inj (hsubtotal'.symm.trans hsubtotal)
    obtain rfl : paid' = paid := Except.ok.inj (hpaid'.symm.trans hpaid)
    obtain rfl : rest = _ := Except.ok.inj (hrest.symm.trans hnumbers.outstanding)
    rw [hnumbers.lines, hnumbers.subtotal, hnumbers.paymentsApplied]
    refine ⟨hsubunits.trans (Money.totalUnits_perm ?_).symm, hpaidunits, hrestunits⟩
    exact InvoiceDraft.linesOf_map_perm (·.amount) (·.debitAmount) fun _ _ _ => rfl

/-- The invoice is all that is written, under the next number of its month. -/
theorem store_eq {i : Invoice} (h : Billed ctx r w (.ok i) w') :
    i.number = .new i.issueDate (w.store.lastSequence ctx i.issueDate + 1) ∧
      ∃ event, w'.store =
        w.store.invoiced ctx (w.store.nextSequence ctx i.issueDate) i event := by
  cases h with
  | @issued d i event hdraft hnumbered =>
    have hnumbers := numbers_of_numbered hnumbered
    rw [hnumbers.number, hnumbers.issueDate]
    exact ⟨rfl, event, rfl⟩

/-- Identifiers stay new. -/
theorem fresh {count : Nat} (h : Billed ctx r w result w')
    (hfresh : w.Fresh (r.charges.length + 2 + count)) : w'.Fresh count := by
  cases h with
  | nothing empty =>
    exact hfresh.advance Nat.one_pos (by omega) rfl fun _ hid => .inl hid
  | overdue => exact hfresh.advance (by omega) (by omega) rfl fun _ hid => .inl hid
  | @issued d i event hdraft hnumbered hwritten =>
    refine hfresh.advance (by omega) (by omega) rfl fun id hid => ?_
    obtain ⟨-, -, subtotal, paid, due, -, -, -, rfl⟩ := InvoiceDraft.assemble_gives_iff.1 hdraft
    rw [MemoryStore.invoiced, WriteOnce.extend_keys, List.mem_append] at hid
    refine hid.imp_right fun hid => ?_
    rw [List.map_singleton, List.mem_singleton] at hid
    exact hid.trans (numbers_of_numbered hnumbered).id

/-- **An invoice marks its charges**, and marks nothing else. -/
theorem mem_billed_iff {i : Invoice} {tenant : TenantId} {entry : EntryId}
    (h : Billed ctx r w (.ok i) w') :
    (tenant, entry) ∈ w'.store.billed.keys ↔
      (tenant, entry) ∈ w.store.billed.keys ∨
        tenant = ctx.tenant ∧ ∃ charge ∈ r.charges, charge.id = entry := by
  cases h with
  | @issued d i event hdraft hnumbered hwritten =>
    have hmarks : (tenant, entry) ∈
        (i.lines.map fun l => ((ctx.tenant, l.entry), i.id)).map (·.1) ↔
          tenant = ctx.tenant ∧ entry ∈ i.lines.map (·.entry) := by
      simp only [List.map_map, List.mem_map, Function.comp_apply, Prod.mk.injEq]
      constructor
      · rintro ⟨l, hl, rfl, rfl⟩
        exact ⟨rfl, l, hl, rfl⟩
      · rintro ⟨rfl, l, hl, rfl⟩
        exact ⟨l, hl, rfl, rfl⟩
    rw [MemoryStore.invoiced, WriteOnce.extend_keys, List.mem_append, hmarks,
      (lines_perm hdraft hnumbered).mem_iff, List.mem_map]

/-- **What is left to bill** is what there was without the billed charges, whoever asks. -/
theorem mem_unbilledCharges_after {i : Invoice} {other : RequestContext} {account : AccountId}
    {period : BillingPeriod} {e : LedgerEntry} (h : Billed ctx r w (.ok i) w')
    (htenant : r.tenant = ctx.tenant) (hpresentable : r.Presentable w.store)
    (hfiled : w.store.Filed) :
    e ∈ w'.store.unbilledCharges other account period ↔
      e ∈ w.store.unbilledCharges other account period ∧ e ∉ r.charges := by
  rw [mem_unbilledCharges_iff, mem_unbilledCharges_iff, h.entries_eq, h.mem_billed_iff]
  constructor
  · rintro ⟨hstored, hown, haccount, hbillable, hperiod, hunmarked⟩
    refine ⟨⟨hstored, hown, haccount, hbillable, hperiod, fun hold => hunmarked (.inl hold)⟩,
      fun hcharge => hunmarked (.inr ⟨?_, e, hcharge, rfl⟩)⟩
    rw [← hown, (hpresentable.chargeable e hcharge).tenant, htenant]
  · rintro ⟨⟨hstored, hown, haccount, hbillable, hperiod, hunmarked⟩, hleft⟩
    refine ⟨hstored, hown, haccount, hbillable, hperiod, ?_⟩
    rintro (hold | ⟨-, charge, hcharge, hid⟩)
    · exact hunmarked hold
    · -- a charge that is marked under the identifier of an entry is that entry
      obtain rfl : charge = e := List.inj_on_of_nodup_map hfiled.ids_nodup
        (hpresentable.stored charge hcharge) hstored hid
      exact hleft hcharge

/-- **Who has none of the billed charges to bill has to bill what it had**: a query for another
tenant, another account, or other days. -/
theorem unbilledCharges_of_apart {other : RequestContext} {account : AccountId}
    {period : BillingPeriod} (h : Billed ctx r w result w') (hpresentable : r.Presentable w.store)
    (hfiled : w.store.Filed)
    (hapart : ∀ charge ∈ r.charges, ¬(other.tenant = ctx.tenant ∧ account = charge.account ∧
      period.contains charge.createdAt = true)) :
    w'.store.unbilledCharges other account period =
      w.store.unbilledCharges other account period := by
  cases result with
  | error x => rw [h.store_eq_of_error]
  | ok i =>
    rw [unbilledCharges, unbilledCharges, accountEntries, accountEntries, tenantEntries,
      tenantEntries, h.entries_eq]
    congr 1
    refine List.filter_congr fun e he => ?_
    rw [Bool.eq_iff_iff]
    simp only [Bool.and_eq_true]
    refine and_congr_right fun hselected => ?_
    -- an entry that the query selects is none of the charges that are marked
    rw [Bool.not_eq_true', Bool.not_eq_true', ← Bool.not_eq_true, ← Bool.not_eq_true,
      WriteOnce.contains_iff, WriteOnce.contains_iff, h.mem_billed_iff, or_iff_left]
    rintro ⟨htenant, charge, hcharge, hid⟩
    obtain ⟨hown, haccount⟩ := List.mem_filter.1 he
    have hsame : charge = e := List.inj_on_of_nodup_map hfiled.ids_nodup
      (hpresentable.stored charge hcharge) (List.mem_of_mem_filter hown) hid
    subst hsame
    exact hapart charge hcharge ⟨htenant, (of_decide_eq_true haccount).symm,
      hselected.2⟩

/-- **Other accounts have to bill what they had.** -/
theorem unbilledCharges_of_ne {other : AccountId} {period : BillingPeriod}
    (h : Billed ctx r w result w') (hbillable : r.Billable w.store) (hfiled : w.store.Filed)
    (hne : other ≠ r.account) :
    w'.store.unbilledCharges ctx other period = w.store.unbilledCharges ctx other period :=
  h.unbilledCharges_of_apart hbillable.toPresentable hfiled fun charge hcharge hsame =>
    hne (hsame.2.1.trans (hbillable.chargeable charge hcharge).account)

/-- **An invoice leaves nothing to bill** of the account and the period that it is for. -/
theorem unbilledCharges_of_ok {i : Invoice} (h : Billed ctx r w (.ok i) w')
    (hcharges : r.charges = w.store.unbilledCharges ctx account period) :
    w'.store.unbilledCharges ctx account period = [] := by
  rw [List.eq_nil_iff_forall_not_mem]
  intro e he
  obtain ⟨hvalue, hown, haccount, hbillable, hperiod, hunmarked⟩ := mem_unbilledCharges_iff.1 he
  rw [h.mem_billed_iff, not_or] at hunmarked
  refine hunmarked.2 ⟨rfl, e, ?_, rfl⟩
  rw [hcharges]
  exact mem_unbilledCharges_iff.2
    ⟨h.entries_eq ▸ hvalue, hown, haccount, hbillable, hperiod, hunmarked.1⟩

/-- What an invoice bills is settled by the request for its draft. -/
theorem unnamed_of_issued {s' : MemoryStore} {ids ids' : DraftIds} {d d' : InvoiceDraft}
    {i i' : Invoice} {ctx' : RequestContext} (hd : (InvoiceDraft.assemble ids r).Gives d)
    (hd' : (InvoiceDraft.assemble ids' r).Gives d') (hi : s.numbered ctx d = .ok i)
    (hi' : s'.numbered ctx' d' = .ok i') : i.unnamed = i'.unnamed := by
  obtain ⟨-, -, subtotal, paid, due, hsubtotal, hpaid, hdue, rfl⟩ :=
    InvoiceDraft.assemble_gives_iff.1 hd
  obtain ⟨-, -, subtotal', paid', due', hsubtotal', hpaid', hdue', rfl⟩ :=
    InvoiceDraft.assemble_gives_iff.1 hd'
  have hlines : (InvoiceDraft.linesOf ids r.charges).map (·.unnamed) =
      (InvoiceDraft.linesOf ids' r.charges).map (·.unnamed) :=
    InvoiceDraft.linesOf_unnamed.trans InvoiceDraft.linesOf_unnamed.symm
  have hamounts : (InvoiceDraft.linesOf ids r.charges).map (·.amount) =
      (InvoiceDraft.linesOf ids' r.charges).map (·.amount) := by
    have h := congrArg (List.map InvoiceLine.amount) hlines
    rw [List.map_map, List.map_map] at h
    exact h
  rw [hamounts, hsubtotal'] at hsubtotal
  obtain rfl := Except.ok.inj hsubtotal
  rw [hpaid'] at hpaid
  obtain rfl := Except.ok.inj hpaid
  rw [hdue'] at hdue
  obtain rfl := Option.some.inj hdue
  obtain ⟨rest, hrest, hi⟩ := bind_eq_ok.1 (numbered_eq_ok_iff.1 hi).2
  obtain ⟨rest', hrest', hi'⟩ := bind_eq_ok.1 (numbered_eq_ok_iff.1 hi').2
  have hsame : rest = rest' := Except.ok.inj (hrest.symm.trans hrest')
  obtain rfl := Except.ok.inj hi
  obtain rfl := Except.ok.inj hi'
  simp only [Invoice.unnamed, InvoiceDraft.ofSums, hlines, hsame]

/-- **Billing the same comes to the same**, whatever was billed before and under whatever
identifiers. -/
theorem unnamed_eq {v v' : Quiet} {result' : Except BillingError Invoice}
    (h : Billed ctx r w result w') (h' : Billed ctx r v result' v') :
    result.map (·.unnamed) = result'.map (·.unnamed) := by
  have hnonempty {ids : DraftIds} {d : InvoiceDraft} (hd : (InvoiceDraft.assemble ids r).Gives d) :
      r.charges ≠ [] ∧ r.issueDate.addDays? r.paymentTermsDays ≠ none := by
    obtain ⟨hcharges, -, -, -, due, -, -, hdue, -⟩ := InvoiceDraft.assemble_gives_iff.1 hd
    exact ⟨hcharges, by simp [hdue]⟩
  cases h with
  | nothing empty =>
    cases h' with
    | nothing => rfl
    | overdue hcharges => exact absurd empty hcharges
    | issued hdraft => exact absurd empty (hnonempty hdraft).1
  | overdue hcharges late =>
    cases h' with
    | nothing empty => exact absurd empty hcharges
    | overdue => rfl
    | issued hdraft => exact absurd late (hnonempty hdraft).2
  | issued hdraft hnumbered =>
    cases h' with
    | nothing empty => exact absurd empty (hnonempty hdraft).1
    | overdue _ late => exact absurd late (hnonempty hdraft).2
    | issued hdraft' hnumbered' =>
      exact congrArg Except.ok (unnamed_of_issued hdraft hdraft' hnumbered hnumbered')

end Billed

end RideLedger
