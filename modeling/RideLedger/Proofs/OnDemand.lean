import RideLedger.Proofs.Charges
import RideLedger.Proofs.Days
import RideLedger.Proofs.Reconciliation

/-!
# On demand — which charges an invoice bills

A client asks for the invoice of an account and a period. The store selects entries, the draft
checks each of them again, and the store once more when it writes. In a ledger within its capacity
the two later checks find nothing that the selection let pass, so what the client gets is settled by
what there is to bill (`MemoryStore.DueCharge`): an invoice of all of it and of nothing else, or the
first of five reasons that there is none (`OnDemand`).

The selection compares instants, and what is due is read off dates (`mem_unbilledCharges_iff_due`).
-/

namespace RideLedger

open MemoryStore
open Money (totalUnits)

variable {s s' : MemoryStore} {ctx : RequestContext} {account : AccountId} {period : BillingPeriod}

/-! ## What is due -/

namespace MemoryStore

/-- A charge that an invoice of an account and a period is to bill: a receivable debit of a ride, on
one of the days, that is on no invoice. -/
structure DueCharge (s : MemoryStore) (ctx : RequestContext) (account : AccountId)
    (period : BillingPeriod) (e : LedgerEntry) : Prop where
  stored : e ∈ s.entries.values
  tenant : e.tenant = ctx.tenant
  account : e.account = account
  ride : e.sourceType = .rideCharge
  receivable : e.ledgerAccount = .accountsReceivable
  debit : e.side = .debit
  first : period.start ≤ e.createdAt.date
  last : e.createdAt.date < period.finish
  unbilled : (ctx.tenant, e.id) ∉ s.billed.keys

/-- **What is selected is what is due.** -/
theorem mem_unbilledCharges_iff_due {e : LedgerEntry} :
    e ∈ s.unbilledCharges ctx account period ↔ s.DueCharge ctx account period e := by
  rw [mem_unbilledCharges_iff, BillingPeriod.contains_iff, LedgerEntry.isBillable, Bool.and_eq_true,
    Bool.and_eq_true, decide_eq_true_iff, decide_eq_true_iff, decide_eq_true_iff]
  constructor
  · rintro ⟨hstored, htenant, haccount, ⟨⟨hride, hreceivable⟩, hdebit⟩, ⟨hfirst, hlast⟩, hunbilled⟩
    exact ⟨hstored, htenant, haccount, hride, hreceivable, hdebit, hfirst, hlast, hunbilled⟩
  · rintro ⟨hstored, htenant, haccount, hride, hreceivable, hdebit, hfirst, hlast, hunbilled⟩
    exact ⟨hstored, htenant, haccount, ⟨⟨hride, hreceivable⟩, hdebit⟩, ⟨hfirst, hlast⟩, hunbilled⟩

/-- Nothing is selected when nothing is due. -/
theorem unbilledCharges_eq_nil_iff :
    s.unbilledCharges ctx account period = [] ↔ ∀ e, ¬s.DueCharge ctx account period e := by
  rw [List.eq_nil_iff_forall_not_mem]
  exact forall_congr' fun e => not_congr mem_unbilledCharges_iff_due

/-- The receivable credits of payments of an account on the days of a period. -/
def paymentsOfDays (s : MemoryStore) (ctx : RequestContext) (account : AccountId)
    (period : BillingPeriod) : List LedgerEntry :=
  (s.accountEntries ctx.tenant account).filter fun e =>
    e.sourceType = .payment ∧ e.ledgerAccount = .accountsReceivable ∧ e.side = .credit ∧
      period.start ≤ e.createdAt.date ∧ e.createdAt.date < period.finish

/-- **The payments that count are those of the days**: a draft leaves none of the selected out. -/
theorem payments_counted_perm {r : DraftRequest} (haccount : r.account = account)
    (hperiod : r.period = period) (hpayments : r.payments = s.paymentsInPeriod ctx account period) :
    (r.payments.filter (InvoiceDraft.counts r)).Perm (s.paymentsOfDays ctx account period) := by
  have hdays : s.paymentsOfDays ctx account period =
      (s.accountEntries ctx.tenant account).filter fun e =>
        e.isPaymentCredit && period.contains e.createdAt := by
    refine List.filter_congr fun e _ => ?_
    rw [Bool.eq_iff_iff, decide_eq_true_iff, Bool.and_eq_true, BillingPeriod.contains_iff]
    simp only [LedgerEntry.isPaymentCredit, Bool.and_eq_true, decide_eq_true_eq, and_assoc]
  have hselected : r.payments.Perm (s.paymentsOfDays ctx account period) := by
    rw [hpayments, hdays]
    exact List.mergeSort_perm ..
  have hall : r.payments.filter (InvoiceDraft.counts r) = r.payments := by
    refine List.filter_eq_self.2 fun e he => ?_
    have hmem := hselected.mem_iff.1 he
    rw [hdays, List.mem_filter, Bool.and_eq_true] at hmem
    have hown : e.account = account := of_decide_eq_true (List.mem_filter.1 hmem.1).2
    simp only [InvoiceDraft.counts, haccount, hperiod, hown, hmem.2.1, hmem.2.2, decide_true,
      Bool.and_true]
  rw [hall]
  exact hselected

end MemoryStore

/-- Two periods without a common day. -/
def BillingPeriod.Apart (p q : BillingPeriod) : Prop :=
  ∀ day : Date, p.start ≤ day → day < p.finish → q.start ≤ day → ¬day < q.finish

/-! ## The invoice -/

/-- An invoice of what is due, and of nothing else. -/
structure Invoice.BillsDue (s : MemoryStore) (ctx : RequestContext) (account : AccountId)
    (period : BillingPeriod) (i : Invoice) : Prop where
  tenant_eq : i.tenant = ctx.tenant
  account_eq : i.account = account
  period_eq : i.period = period
  once : (i.lines.map (·.entry)).Nodup
  charges : ∀ id, id ∈ i.lines.map (·.entry) ↔ ∃ e, s.DueCharge ctx account period e ∧ e.id = id
  lines : ∀ l ∈ i.lines, l.invoice = i.id ∧ ∃ e, s.DueCharge ctx account period e ∧
    l.entry = e.id ∧ l.Bills ctx.tenant account period e
  subtotal : i.subtotal.units = totalUnits (i.lines.map (·.amount))
  payments : i.paymentsApplied.units =
    totalUnits ((s.paymentsOfDays ctx account period).map (·.creditAmount))
  outstanding : i.outstanding.units = i.subtotal.units - i.paymentsApplied.units

/-- What is due elsewhere stays due: to other tenants, of other accounts, on other days. -/
def MemoryStore.DueElsewhereStays (s : MemoryStore) (ctx : RequestContext) (account : AccountId)
    (period : BillingPeriod) (s' : MemoryStore) : Prop :=
  ∀ (other : RequestContext) (account' : AccountId) (period' : BillingPeriod),
    other.tenant ≠ ctx.tenant ∨ account' ≠ account ∨ period'.Apart period →
      s'.unbilledCharges other account' period' = s.unbilledCharges other account' period'

namespace Invoices

/-- The day of issue: the one that was asked for, or today. -/
def issueDay (options : InvoiceOptions) (w : Quiet) : Date := options.issueDate.getD w.now.date

/-- The terms of payment in days: those that were asked for, or those of the policy. -/
def termsOf (policy : InvoicingPolicy) (options : InvoiceOptions) : Nat :=
  (options.paymentTermsDays.getD policy.paymentTermsDays).toNat

end Invoices

open Invoices (issueDay termsOf)

/-- What a client gets who asks for an invoice, in order of precedence: each case has what those
before it do not have. -/
inductive OnDemand (cancelled : Bool) (policy : InvoicingPolicy) (ctx : RequestContext)
    (id : AccountId) (period : BillingPeriod) (options : InvoiceOptions) (w : Quiet) :
    Except BillingError Invoice → Quiet → Prop
  | absent (none : w.store.account? ctx.tenant id = none) :
      OnDemand cancelled policy ctx id period options w (.error (.notFound "Account" id.toText)) w
  | nothing {w' : Quiet} (found : (w.store.account? ctx.tenant id).isSome)
      (none : ∀ e, ¬w.store.DueCharge ctx id period e) (same : w'.store = w.store) :
      OnDemand cancelled policy ctx id period options w
        (.error (.noUnbilledCharges id period.start period.finish)) w'
  | overdue {w' : Quiet} (found : (w.store.account? ctx.tenant id).isSome)
      (some : ∃ e, w.store.DueCharge ctx id period e)
      (late : lastDay < (issueDay options w).number + termsOf policy options)
      (same : w'.store = w.store) :
      OnDemand cancelled policy ctx id period options w (.error (.validation .dueDateOutOfRange)) w'
  | taken {w' : Quiet} (found : (w.store.account? ctx.tenant id).isSome)
      (some : ∃ e, w.store.DueCharge ctx id period e)
      (due : (issueDay options w).number + termsOf policy options ≤ lastDay)
      (old : (⟨w.supply.ordered 0⟩ : InvoiceId) ∈ w.store.invoices.keys)
      (same : w'.store = w.store) :
      OnDemand cancelled policy ctx id period options w
        (.error (.ofStoreFault (.immutable "Invoice" (⟨w.supply.ordered 0⟩ : InvoiceId).toText))) w'
  | stopped {w' : Quiet} (found : (w.store.account? ctx.tenant id).isSome)
      (some : ∃ e, w.store.DueCharge ctx id period e)
      (due : (issueDay options w).number + termsOf policy options ≤ lastDay)
      (new : (⟨w.supply.ordered 0⟩ : InvoiceId) ∉ w.store.invoices.keys)
      (ended : cancelled = true) (same : w'.store = w.store) :
      OnDemand cancelled policy ctx id period options w (.error .cancelled) w'
  | issued {i : Invoice} {w' : Quiet} (found : (w.store.account? ctx.tenant id).isSome)
      (some : ∃ e, w.store.DueCharge ctx id period e)
      (due : (issueDay options w).number + termsOf policy options ≤ lastDay)
      (new : (⟨w.supply.ordered 0⟩ : InvoiceId) ∉ w.store.invoices.keys)
      (live : cancelled = false)
      (bills : i.BillsDue w.store ctx id period)
      (issueDate : i.issueDate = issueDay options w)
      (dueDate : i.dueDate.number = i.issueDate.number + termsOf policy options)
      (inOrder : i.issueDate ≤ i.dueDate)
      (number : i.number = .new i.issueDate (w.store.lastSequence ctx i.issueDate + 1))
      (room : w.store.lastSequence ctx i.issueDate + 1 < 2 ^ 32)
      (stored : ∃ event, w'.store =
        w.store.invoiced ctx (w.store.nextSequence ctx i.issueDate) i event)
      (settled : w'.store.unbilledCharges ctx id period = [])
      (elsewhere : w.store.DueElsewhereStays ctx id period w'.store) :
      OnDemand cancelled policy ctx id period options w (.ok i) w'

variable {policy : InvoicingPolicy} {options : InvoiceOptions} {w w' : Quiet} {id : AccountId}
  {i : Invoice}

/-- **What is billed on demand is what is due.** -/
theorem Billed.billsDue (h : Billed ctx (Invoices.selection policy ctx id period options w) w
    (.ok i) w') (hfiled : w.store.Filed) (hroom : Roomy (w.store.tenantEntries ctx.tenant)) :
    i.BillsDue w.store ctx id period := by
  have hbillable : (Invoices.selection policy ctx id period options w).Billable w.store :=
    billable_of_selected hfiled hroom rfl (List.Sublist.refl _) (List.Sublist.refl _)
  obtain ⟨htenant, haccount, hlines⟩ := h.bills_request
  obtain ⟨hsubtotal, hpaid, houtstanding⟩ := h.sums_exact hbillable
  have hpayments : ((Invoices.selection policy ctx id period options w).payments.filter
      (InvoiceDraft.counts _)).Perm (w.store.paymentsOfDays ctx id period) :=
    payments_counted_perm rfl rfl rfl
  refine
    { tenant_eq := htenant, account_eq := haccount, period_eq := h.dates.1
      once := hlines.nodup_iff.2 (unbilledCharges_nodup hfiled)
      charges := fun entry => ?_, lines := fun l hl => ?_
      subtotal := hsubtotal
      payments := hpaid.trans (Money.totalUnits_perm (hpayments.map _))
      outstanding := houtstanding }
  · rw [hlines.mem_iff, List.mem_map]
    exact exists_congr fun e => and_congr_left fun _ => mem_unbilledCharges_iff_due
  · obtain ⟨hinvoice, e, he, hentry, hbills⟩ := h.lines_bill l hl
    exact ⟨hinvoice, e, mem_unbilledCharges_iff_due.1 he, hentry, hbills⟩

/-- **It leaves what is due elsewhere.** -/
theorem Billed.dueElsewhereStays
    (h : Billed ctx (Invoices.selection policy ctx id period options w) w (.ok i) w')
    (hfiled : w.store.Filed) (hroom : Roomy (w.store.tenantEntries ctx.tenant)) :
    w.store.DueElsewhereStays ctx id period w'.store := fun other account' period' hother => by
  have hbillable : (Invoices.selection policy ctx id period options w).Billable w.store :=
    billable_of_selected hfiled hroom rfl (List.Sublist.refl _) (List.Sublist.refl _)
  refine h.unbilledCharges_of_apart hbillable.toPresentable hfiled fun charge hcharge => ?_
  have hdue : w.store.DueCharge ctx id period charge := mem_unbilledCharges_iff_due.1 hcharge
  rintro ⟨htenant, haccount, hinstant⟩
  obtain ⟨hfirst, hlast⟩ := BillingPeriod.contains_iff.1 hinstant
  rcases hother with hother | hother | hother
  · exact hother htenant
  · exact hother (haccount.trans hdue.account)
  · exact hother _ hfirst hlast hdue.first hdue.last

/-- **Asking for an invoice**, cancelled or not, in every reachable store within its capacity: an
invoice of exactly what is due, or the first reason that there is none, and then the store is what
it was. -/
theorem exists_onDemand (cancelled : Bool) (policy : InvoicingPolicy) (ctx : RequestContext)
    (id : AccountId) (period : BillingPeriod) (options : InvoiceOptions)
    (hreachable : w.store.Reachable LedgerTransaction.Built)
    (hsize : w.store.entries.size ≤ ledgerCapacity) :
    ∃ result w',
      RunsHeeding cancelled (Invoices.generate policy ctx id period options) w result w' ∧
      OnDemand cancelled policy ctx id period options w result w' := by
  obtain ⟨hfiled, journal, hjournal⟩ := hreachable.journaled
  obtain ⟨-, -, hnumbered⟩ := hreachable.invoicing
  have hroom : Roomy (w.store.tenantEntries ctx.tenant) := hjournal.roomy hsize
  cases ha : w.store.account? ctx.tenant id with
  | none => exact ⟨_, w, run_bind_of_error (runsHeeding_get_none ha), .absent ha⟩
  | some a =>
    have hfound := Option.isSome_of_eq_some ha
    obtain ⟨result, w', hruns, hpresented⟩ := Invoices.exists_requested (fun _ => cancelled)
      policy period options ha hfiled hnumbered hroom (hreachable.lastSequence_lt hsize ctx _)
    refine ⟨result, w', hruns.heeding, ?_⟩
    have hsome (hcharges : w.store.unbilledCharges ctx id period ≠ []) :
        ∃ e, w.store.DueCharge ctx id period e := by
      obtain ⟨e, he⟩ := List.exists_mem_of_ne_nil _ hcharges
      exact ⟨e, mem_unbilledCharges_iff_due.1 he⟩
    have hdue (h : ((issueDay options w).addDays? (termsOf policy options)).isSome) :
        (issueDay options w).number + termsOf policy options ≤ lastDay :=
      Date.isSome_addDays?_iff.1 h
    cases hpresented with
    | nothing empty => exact .nothing hfound (unbilledCharges_eq_nil_iff.1 empty) rfl
    | overdue some late =>
      exact .overdue hfound (hsome some) (Date.addDays?_eq_none_iff.1 late) rfl
    | taken some due old => exact .taken hfound (hsome some) (hdue due) old rfl
    | stopped some due new ended => exact .stopped hfound (hsome some) (hdue due) new ended rfl
    | @issued i _ new live billed =>
      obtain ⟨hperiod, hissue, hterms⟩ := billed.dates
      obtain ⟨hnumber, hstored⟩ := billed.store_eq
      have hlater : i.dueDate.number = i.issueDate.number + termsOf policy options := by
        rw [hissue]
        exact Date.number_of_addDays? hterms
      have hinOrder : i.issueDate ≤ i.dueDate := by
        change i.issueDate.number ≤ i.dueDate.number
        omega
      have hcharges : w.store.unbilledCharges ctx id period ≠ [] := fun hnil => by
        cases billed.error_of_nil hnil
      exact .issued hfound (hsome hcharges) (hdue (Option.isSome_of_eq_some hterms)) new live
        (billed.billsDue hfiled hroom) hissue hlater hinOrder hnumber
        (hreachable.lastSequence_lt hsize ctx _) hstored (billed.unbilledCharges_of_ok rfl)
        (billed.dueElsewhereStays hfiled hroom)

/-! ## A second ride and a payment -/

/-- What the first account is asked for. -/
def secondInvoice : Service Invoice :=
  Invoices.generate .default Sample.operator firstAccount Sample.firstWeekOfMarch .default

/-- The second invoice of the month is of the open ride alone, less the payment. -/
theorem exists_onDemand_secondRide :
    reconciled.store.Reachable LedgerTransaction.Built ∧ reconciled.store.entries.size = 8 ∧
    ∃ i w', RunsHeeding false secondInvoice reconciled (.ok i) w' ∧
      OnDemand false .default Sample.operator firstAccount Sample.firstWeekOfMarch .default
        reconciled (.ok i) w' ∧
      i.number.text = "INV-202403-000002" ∧ i.lines.map (·.reference) = ["ride-2"] ∧
      i.outstanding.units = 25000 := by
  have hreachable : reconciled.store.Reachable LedgerTransaction.Built :=
    reachable_reconciled
  have hsize : reconciled.store.entries.size = 8 := by decide +kernel
  have hshown : (secondInvoice.run.run (Quiet.heeding false) reconciled).map (fun (r, _) =>
      r.toOption.map fun i => (i.number.text, i.lines.map (·.reference), i.outstanding.units)) =
      .ok (some ("INV-202403-000002", ["ride-2"], 25000)) := by decide +kernel
  obtain ⟨result, w', hruns, hdemand⟩ := exists_onDemand false .default Sample.operator
    firstAccount Sample.firstWeekOfMarch .default hreachable (by rw [hsize]; decide)
  have hrun : secondInvoice.run.run (Quiet.heeding false) reconciled = .ok (result, w') := hruns
  rw [hrun] at hshown
  have hresult := Except.ok.inj hshown
  cases result with
  | error x => cases hresult
  | ok i =>
    obtain ⟨hnumber, hrest⟩ := Prod.mk.inj (Option.some.inj hresult)
    obtain ⟨hlines, houtstanding⟩ := Prod.mk.inj hrest
    exact ⟨hreachable, hsize, i, w', hruns, hdemand, hnumber, hlines, houtstanding⟩

end RideLedger
