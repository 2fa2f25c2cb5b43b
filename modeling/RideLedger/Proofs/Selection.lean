import RideLedger.Proofs.AnyOrder
import RideLedger.Proofs.Days

/-!
# Selection — which charges make a draft, in whatever order they come

A draft is assembled from a list of charges, checked one after another, and a list of payments. As
long as the sums have room (`DraftRequest.Modest`), assembling always comes to a result, and it
comes to a draft exactly if the list is a selection: not empty, without an entry twice, of charges
that the request takes (`DraftRequest.Takes`), and with a due date that exists. Nothing of this
depends on an order.

Nor does the draft. Its lines are sorted by day and entry, and as no two of them are for one entry,
they come in one order only; the order of the request shows in the identifiers of the lines and
nowhere else.
-/

namespace RideLedger

open Money (worth)

/-! ## The order of the lines -/

instance : Std.TransOrd Date := inferInstanceAs (Std.TransCmp (compareOn Date.number))

instance : Std.LawfulEqOrd Date where
  eq_of_compare {a b} h := by
    obtain ⟨n, _, _⟩ := a
    obtain ⟨m, _, _⟩ := b
    obtain rfl : n = m := Std.LawfulEqOrd.eq_of_compare (α := Int) h
    rfl

/-- Lines are sorted by their day, and those of one day by their entry. -/
theorem ordersBy_dateLe : OrdersBy (·.entry) InvoiceLine.dateLe :=
  .compare_then InvoiceLine.serviceDate InvoiceLine.entry

namespace InvoiceLine

/-- A line comes before another one: it is of an earlier day, or of the same day and of the entry
with the smaller identifier. -/
def Before (a b : InvoiceLine) : Prop :=
  a.serviceDate < b.serviceDate ∨
    a.serviceDate = b.serviceDate ∧ a.entry.uuid.value < b.entry.uuid.value

/-- The order that lines are sorted by. -/
theorem before_of_compare {a b : InvoiceLine}
    (h : compareLex (compareOn serviceDate) (compareOn entry) a b = .lt) : a.Before b := by
  rcases Ordering.then_eq_lt.1 h with hdate | ⟨hdate, hentry⟩
  · exact .inl (Std.compare_eq_lt (α := Int).1 hdate)
  · exact .inr ⟨Std.LawfulEqOrd.eq_of_compare hdate, Std.compare_eq_lt (α := Nat).1 hentry⟩

/-- The line under other identifiers. -/
def renamed (id : InvoiceLineId) (invoice : InvoiceId) (l : InvoiceLine) : InvoiceLine :=
  { l with id := id, invoice := invoice }

/-- A line that shows what a charge says. -/
structure Shows (l : InvoiceLine) (charge : LedgerEntry) : Prop where
  entry : l.entry = charge.id
  tenant : l.tenant = charge.tenant
  reference : l.reference = charge.reference
  serviceDate : l.serviceDate = charge.createdAt.date
  amount : l.amount = charge.debitAmount

theorem shows_ofCharge (id : InvoiceLineId) (invoice : InvoiceId) (charge : LedgerEntry) :
    (ofCharge id invoice charge).Shows charge := ⟨rfl, rfl, rfl, rfl, rfl⟩

end InvoiceLine

/-! ## Requests -/

namespace DraftRequest

/-- What a charge has to be to go on the draft of a request: a receivable debit for a ride, of the
request's tenant and account, and created on a day of its period. -/
structure Takes (r : DraftRequest) (charge : LedgerEntry) : Prop where
  tenant : charge.tenant = r.tenant
  account : charge.account = r.account
  ride : charge.sourceType = .rideCharge
  receivable : charge.ledgerAccount = .accountsReceivable
  debit : 0 < charge.debitAmount.value
  inPeriod : r.period.start ≤ charge.createdAt.date ∧ charge.createdAt.date < r.period.finish

/-- A request whose charges are a selection, and whose due date exists. -/
structure Selected (r : DraftRequest) : Prop where
  nonempty : r.charges ≠ []
  takes : ∀ charge ∈ r.charges, r.Takes charge
  once : (r.charges.map (·.id)).Nodup
  due : r.issueDate.number + r.paymentTermsDays ≤ lastDay

/-- A request of two lists that are no longer than a ledger's capacity, and of amounts that are no
larger than the largest entry. -/
structure Modest (r : DraftRequest) : Prop where
  fewCharges : r.charges.length ≤ ledgerCapacity
  fewPayments : r.payments.length ≤ ledgerCapacity
  charges : ∀ e ∈ r.charges, maxEntryAmount.lt e.debitAmount.abs.amount = false
  payments : ∀ e ∈ r.payments, maxEntryAmount.lt e.creditAmount.abs.amount = false

/-- The same request with other lists. -/
def relisted (r : DraftRequest) (charges payments : List LedgerEntry) : DraftRequest :=
  { r with charges := charges, payments := payments }

variable {r : DraftRequest} {charges payments : List LedgerEntry}

theorem Modest.relisted (h : r.Modest) (hcharges : charges.Perm r.charges)
    (hpayments : payments.Perm r.payments) : (r.relisted charges payments).Modest where
  fewCharges := hcharges.length_eq ▸ h.fewCharges
  fewPayments := hpayments.length_eq ▸ h.fewPayments
  charges e he := h.charges e (hcharges.mem_iff.1 he)
  payments e he := h.payments e (hpayments.mem_iff.1 he)

theorem Selected.relisted (h : r.Selected) (hcharges : charges.Perm r.charges) :
    (r.relisted charges payments).Selected where
  nonempty hnil := h.nonempty (List.nil_perm.1 (hnil ▸ hcharges))
  takes charge hcharge := { h.takes charge (hcharges.mem_iff.1 hcharge) with }
  once := (hcharges.map _).nodup_iff.2 h.once
  due := h.due

/-- **A selection is one in any order.** -/
theorem selected_relisted_iff (hcharges : charges.Perm r.charges) :
    (r.relisted charges payments).Selected ↔ r.Selected :=
  -- the first charges, put back, are an order of the others
  ⟨fun h => (h.relisted hcharges.symm : (r.relisted r.charges r.payments).Selected),
    fun h => h.relisted hcharges⟩

end DraftRequest

namespace InvoiceDraft

variable {ids ids' : DraftIds} {r r' : DraftRequest} {d d' : InvoiceDraft}

/-! ## Acceptance -/

/-- The checks of a charge find out what it has to be. -/
theorem chargeable_iff_takes {charge : LedgerEntry} :
    Chargeable r charge ↔ r.Takes charge := by
  constructor
  · rintro ⟨htenant, haccount, hbillable, hperiod⟩
    obtain ⟨hride, hreceivable, hdebit⟩ := LedgerEntry.isBillable_iff.1 hbillable
    exact ⟨htenant, haccount, hride, hreceivable, Money.isPositive_iff_value.1 hdebit,
      BillingPeriod.contains_iff.1 hperiod⟩
  · rintro ⟨htenant, haccount, hride, hreceivable, hdebit, hperiod⟩
    exact ⟨htenant, haccount,
      LedgerEntry.isBillable_iff.2 ⟨hride, hreceivable, Money.isPositive_iff_value.2 hdebit⟩,
      BillingPeriod.contains_iff.2 hperiod⟩

/-- A modest list of amounts adds up, in any order. -/
theorem addUp_of_modest {ms : List Money} (hfew : ms.length ≤ ledgerCapacity)
    (hsmall : ∀ m ∈ ms, maxEntryAmount.lt m.abs.amount = false) : Money.AddUp ms := by
  have hsize := Money.grossUnits_le_of_small hsmall
  have hcapacity := Nat.mul_le_mul_right maxEntryUnits hfew
  exact Money.addUp_of_room
    (Nat.lt_of_le_of_lt (Nat.le_trans hsize hcapacity) ledgerCapacity_spec.1)

/-- **The sums of a modest request are exact.** -/
theorem sums_of_modest (h : r.Modest) (ids : DraftIds) :
    ∃ subtotal paid, Money.sum ((linesOf ids r.charges).map (·.amount)) = .ok subtotal ∧
      Money.sum ((r.payments.filter (counts r)).map (·.creditAmount)) = .ok paid ∧
      subtotal.value = worth (r.charges.map (·.debitAmount)) ∧
      paid.value = worth ((r.payments.filter (counts r)).map (·.creditAmount)) := by
  have hcharges : Money.AddUp (r.charges.map (·.debitAmount)) :=
    addUp_of_modest (by simpa using h.fewCharges) (by simpa using h.charges)
  have hpayments : Money.AddUp ((r.payments.filter (counts r)).map (·.creditAmount)) := by
    refine addUp_of_modest ?_ ?_
    · rw [List.length_map]
      exact Nat.le_trans (List.length_filter_le ..) h.fewPayments
    · intro m hm
      obtain ⟨e, he, rfl⟩ := List.mem_map.1 hm
      exact h.payments e (List.mem_of_mem_filter he)
  have hamounts : ((linesOf ids r.charges).map (·.amount)).Perm (r.charges.map (·.debitAmount)) :=
    linesOf_map_perm (·.amount) (·.debitAmount) fun _ _ _ => rfl
  obtain ⟨subtotal, hsubtotal, hworth⟩ := hcharges.anyOrder _ hamounts
  obtain ⟨paid, hpaid, hpaidWorth⟩ := hpayments.anyOrder _ (.refl _)
  exact ⟨subtotal, paid, hsubtotal, hpaid, hworth, hpaidWorth⟩

/-- **A draft is assembled exactly from a selection.** -/
theorem exists_gives_iff (h : r.Modest) :
    (∃ d, (assemble ids r).Gives d) ↔ r.Selected := by
  have hfault : firstFault? r [] r.charges = none ↔
      (∀ charge ∈ r.charges, r.Takes charge) ∧ (r.charges.map (·.id)).Nodup := by
    simp [firstFault?_eq_none_iff, chargeable_iff_takes]
  constructor
  · rintro ⟨d, hd⟩
    obtain ⟨hne, hnone, -, -, due, -, -, hdue, -⟩ := assemble_gives_iff.1 hd
    obtain ⟨htakes, honce⟩ := hfault.1 hnone
    exact ⟨hne, htakes, honce, Date.isSome_addDays?_iff.1 (hdue ▸ rfl)⟩
  · rintro ⟨hne, htakes, honce, hdue⟩
    obtain ⟨subtotal, paid, hsubtotal, hpaid, -, -⟩ := sums_of_modest h ids
    obtain ⟨due, hdue⟩ := Option.isSome_iff_exists.1 (Date.isSome_addDays?_iff.2 hdue)
    exact ⟨_, assemble_gives_iff.2
      ⟨hne, hfault.2 ⟨htakes, honce⟩, subtotal, paid, due, hsubtotal, hpaid, hdue, rfl⟩⟩

/-! ## What a draft says -/

/-- Under one pair of identifiers, the lines are those of the charges, sorted. -/
theorem linesOf_renamed (id : InvoiceLineId) (invoice : InvoiceId) (charges : List LedgerEntry) :
    (linesOf ids charges).map (·.renamed id invoice) =
      (charges.map (.ofCharge id invoice)).mergeSort InvoiceLine.dateLe := by
  have hsort := List.map_mergeSort (f := InvoiceLine.renamed id invoice)
    (l := charges.mapIdx fun i c => .ofCharge (ids.line i) ids.invoice c)
    (r := InvoiceLine.dateLe) (s := InvoiceLine.dateLe) fun _ _ _ _ => rfl
  rw [linesOf, hsort]
  congr 1
  exact List.ext_getElem (by simp) fun i _ _ => by simp [InvoiceLine.renamed, InvoiceLine.ofCharge]

/-- A draft that says of the charges of a request what there is to say: one line for each, in
ascending order, and their exact sum. -/
structure Bills (r : DraftRequest) (d : InvoiceDraft) : Prop where
  lines : ∃ charges, charges.Perm r.charges ∧ List.Forall₂ InvoiceLine.Shows d.lines charges
  ascending : d.lines.Pairwise InvoiceLine.Before
  invoice : ∀ l ∈ d.lines, l.invoice = d.id
  subtotal : d.subtotal.value = worth (r.charges.map (·.debitAmount))
  dueDate : d.dueDate.number = r.issueDate.number + r.paymentTermsDays

/-- A draft bills what it was assembled from. -/
theorem bills_of_gives (h : r.Modest) (hd : (assemble ids r).Gives d) : d.Bills r := by
  have hnodup := nodup_of_assemble hd
  obtain ⟨subtotal, paid, hsubtotal, -, hworth, -⟩ := sums_of_modest h ids
  obtain ⟨-, -, subtotal', paid', due, hsubtotal', -, hdue, rfl⟩ := assemble_gives_iff.1 hd
  obtain rfl : subtotal = subtotal' := Except.ok.inj (hsubtotal.symm.trans hsubtotal')
  refine ⟨?_, ?_, ?_, hworth, Date.number_of_addDays? hdue⟩
  · have hshown : List.Forall₂ InvoiceLine.Shows
        (r.charges.mapIdx fun i c => .ofCharge (ids.line i) ids.invoice c) r.charges :=
      List.forall₂_iff_get.2 ⟨by simp, fun i _ _ => by simp [InvoiceLine.shows_ofCharge]⟩
    obtain ⟨charges, hshows, hperm⟩ := List.perm_comp_forall₂ linesOf_perm hshown
    exact ⟨charges, hperm, hshows⟩
  · have hunsorted := (linesOf_perm.map InvoiceLine.entry).nodup_iff.1 hnodup
    have hsorted := OrdersBy.mergeSort_strict
      (compareLex (compareOn InvoiceLine.serviceDate) (compareOn InvoiceLine.entry))
      (fun _ _ => OrdersBy.key_eq_of_compareLex) hunsorted
    exact hsorted.imp InvoiceLine.before_of_compare
  · intro l hl
    obtain ⟨i, hi, rfl⟩ := mem_linesOf.1 hl
    rfl

/-! ## Two orders -/

/-- Two drafts that differ in nothing but the identifiers of the invoice and its lines. -/
structure SameBill (d d' : InvoiceDraft) : Prop where
  lines : ∀ id invoice, d.lines.map (·.renamed id invoice) = d'.lines.map (·.renamed id invoice)
  subtotal : d.subtotal = d'.subtotal
  paymentsApplied : d.paymentsApplied.value = d'.paymentsApplied.value
  dueDate : d.dueDate = d'.dueDate

variable {charges payments : List LedgerEntry}

/-- The lines of different charges come in one order, whatever order the charges were in. -/
theorem linesOf_perm_renamed (ids ids' : DraftIds) (hperm : charges.Perm r.charges)
    (honce : (r.charges.map (·.id)).Nodup) (id : InvoiceLineId) (invoice : InvoiceId) :
    (linesOf ids r.charges).map (·.renamed id invoice) =
      (linesOf ids' charges).map (·.renamed id invoice) := by
  rw [linesOf_renamed, linesOf_renamed]
  have hsame : SameItems false (r.charges.map (InvoiceLine.ofCharge id invoice))
      (charges.map (InvoiceLine.ofCharge id invoice)) := ⟨hperm.symm.map _, Bool.noConfusion⟩
  refine hsame.mergeSort_eq ordersBy_dateLe ?_
  rw [List.map_map]
  exact honce

/-- **Two drafts of one request, whatever the order of its lists, are the same bill.** -/
theorem sameBill_of_gives (h : r.Modest) (hcharges : charges.Perm r.charges)
    (hpayments : payments.Perm r.payments) (hd : (assemble ids r).Gives d)
    (hd' : (assemble ids' (r.relisted charges payments)).Gives d') : d.SameBill d' := by
  have honce := ((exists_gives_iff h).1 ⟨d, hd⟩).once
  obtain ⟨-, paid, -, hpaid, -, hworth⟩ := sums_of_modest h ids
  obtain ⟨-, paid', -, hpaid', -, hworth'⟩ := sums_of_modest (h.relisted hcharges hpayments) ids'
  obtain ⟨-, -, subtotal₁, paid₁, due, hsubtotal₁, hpaid₁, hdue, rfl⟩ := assemble_gives_iff.1 hd
  obtain ⟨-, -, subtotal₂, paid₂, due', hsubtotal₂, hpaid₂, hdue', rfl⟩ :=
    assemble_gives_iff.1 hd'
  obtain rfl : paid = paid₁ := Except.ok.inj (hpaid.symm.trans hpaid₁)
  obtain rfl : paid' = paid₂ := Except.ok.inj (hpaid'.symm.trans hpaid₂)
  have hlines := linesOf_perm_renamed ids ids' hcharges honce
  refine ⟨hlines, ?_, ?_, Option.some.inj (hdue.symm.trans hdue')⟩
  · -- the amounts of the lines are the same, one by one
    have hamounts := congrArg (List.map InvoiceLine.amount) (hlines default default)
    rw [List.map_map, List.map_map] at hamounts
    exact Except.ok.inj (hsubtotal₁.symm.trans ((congrArg Money.sum hamounts).trans hsubtotal₂))
  · have hcounted : ((r.relisted charges payments).payments.filter
        (counts (r.relisted charges payments))).Perm (r.payments.filter (counts r)) :=
      hpayments.filter _
    exact (hworth.trans (Money.worth_perm (hcounted.map _)).symm).trans hworth'.symm

end InvoiceDraft

/-! ## Exactly the selections, in any order -/

/-- **A draft is assembled exactly from a selection, and does not depend on its order.** Of a modest
request, assembling always comes to a result. It comes to a draft exactly if the charges are a
selection. The draft has one line for each charge, in ascending order, and their exact sum. And with
the charges and payments in any other order there is a draft of the same request whenever there is
one at all, with the same lines and sums. -/
theorem assemble_selection {r : DraftRequest} (h : r.Modest) (ids : DraftIds) :
    (InvoiceDraft.assemble ids r).InRange ∧
    ((∃ d, (InvoiceDraft.assemble ids r).Gives d) ↔ r.Selected) ∧
    (∀ d, (InvoiceDraft.assemble ids r).Gives d → d.Bills r) ∧
    ∀ (ids' : DraftIds) (charges payments : List LedgerEntry),
      charges.Perm r.charges → payments.Perm r.payments →
      ((∃ d', (InvoiceDraft.assemble ids' (r.relisted charges payments)).Gives d') ↔
        ∃ d, (InvoiceDraft.assemble ids r).Gives d) ∧
      ∀ d d', (InvoiceDraft.assemble ids r).Gives d →
        (InvoiceDraft.assemble ids' (r.relisted charges payments)).Gives d' → d.SameBill d' := by
  obtain ⟨subtotal, paid, hsubtotal, hpaid, -, -⟩ := InvoiceDraft.sums_of_modest h ids
  refine ⟨InvoiceDraft.inRange_of_sums hsubtotal hpaid, InvoiceDraft.exists_gives_iff h,
    fun d => InvoiceDraft.bills_of_gives h, fun ids' charges payments hcharges hpayments => ?_⟩
  refine ⟨?_, fun d d' => InvoiceDraft.sameBill_of_gives h hcharges hpayments⟩
  rw [InvoiceDraft.exists_gives_iff (h.relisted hcharges hpayments),
    InvoiceDraft.exists_gives_iff h, DraftRequest.selected_relisted_iff hcharges]

/-! ## A week -/

/-- An entry of the week's account. -/
def weekEntry (id : Nat) (sourceType : SourceType) (day : Fin 7) (debit credit : Money) :
    LedgerEntry where
  id := ⟨.ofNat id⟩
  tenant := Sample.tenant
  account := Sample.unknownAccount
  ledgerAccount := .accountsReceivable
  debitAmount := debit
  creditAmount := credit
  sourceType := sourceType
  reference := Sample.ride id
  createdAt := (Sample.epoch.add? (day * 86400000000000 : Nat)).getD Sample.epoch
  createdBy := Sample.operator.actor
  description := none

/-- Three rides, of which the last one listed is the first, and two payments. -/
def weekRequest : DraftRequest where
  tenant := Sample.tenant
  account := Sample.unknownAccount
  period := Sample.firstWeekOfMarch
  issueDate := Sample.firstOfMarch
  paymentTermsDays := 30
  charges :=
    [weekEntry 1 .rideCharge 2 Sample.longRide .zero,
      weekEntry 5 .rideCharge 0 Sample.rideFare .zero,
      weekEntry 3 .rideCharge 0 Sample.shortRide .zero]
  payments :=
    [weekEntry 7 .payment 1 .zero Sample.overpayment,
      weekEntry 6 .payment 1 .zero Sample.partialPayment]
  generatedAt := Sample.epoch
  generatedBy := Sample.operator.actor

/-- Identifiers for the draft of the week, from some place on. -/
def weekIds (place : Fin 100) : DraftIds where
  invoice := ⟨.ofNat place⟩
  line n := ⟨.ofNat (place + n + 1)⟩

/-- The lines of the rides, as the request lists them. -/
def weekLines : List InvoiceLine :=
  weekRequest.charges.mapIdx fun i c => .ofCharge ((weekIds 10).line i) (weekIds 10).invoice c

/-- The request lists them the wrong way around. -/
theorem linesOf_week :
    InvoiceDraft.linesOf (weekIds 10) weekRequest.charges = weekLines.reverse := by
  have hsame : SameItems false weekLines weekLines.reverse :=
    ⟨(List.reverse_perm _).symm, Bool.noConfusion⟩
  exact (hsame.mergeSort_eq ordersBy_dateLe (by decide +kernel)).trans
    (List.mergeSort_of_pairwise (by decide +kernel))

/-- The rides of the first day come first, in the order of their identifiers, whichever way around
the request lists them. -/
theorem assemble_selection_week :
    weekRequest.Modest ∧
    ∃ d d', (InvoiceDraft.assemble (weekIds 10) weekRequest).Gives d ∧
      (InvoiceDraft.assemble (weekIds 20) (weekRequest.relisted weekRequest.charges.reverse
        weekRequest.payments.reverse)).Gives d' ∧
      d.SameBill d' ∧ d.entryIds.map (·.uuid.value) = [3, 5, 1] ∧
      d.subtotal.value = worth (weekRequest.charges.map (·.debitAmount)) := by
  have hmodest : weekRequest.Modest :=
    ⟨by decide, by decide, by decide +kernel, by decide +kernel⟩
  obtain ⟨-, -, hbills, hlisted⟩ := assemble_selection hmodest (weekIds 10)
  have hsubtotal : Money.sum ((InvoiceDraft.linesOf (weekIds 10) weekRequest.charges).map
      (·.amount)) = .ok (Sample.cents 8625) := by
    rw [linesOf_week]
    decide +kernel
  have hentries : (InvoiceDraft.linesOf (weekIds 10) weekRequest.charges).map
      (·.entry.uuid.value) = [3, 5, 1] := by
    rw [linesOf_week]
    decide +kernel
  have hd : (InvoiceDraft.assemble (weekIds 10) weekRequest).Gives
      (.ofSums (weekIds 10) weekRequest (Sample.cents 8625) (Sample.cents 4000)
        { number := 19813 }) :=
    InvoiceDraft.assemble_gives_iff.2 ⟨by decide, by decide +kernel, _, _, _, hsubtotal,
      by decide +kernel, by decide +kernel, rfl⟩
  obtain ⟨hagain, hsame⟩ := hlisted (weekIds 20) weekRequest.charges.reverse
    weekRequest.payments.reverse (List.reverse_perm _) (List.reverse_perm _)
  obtain ⟨d', hd'⟩ := hagain.2 ⟨_, hd⟩
  refine ⟨hmodest, _, d', hd, hd', hsame _ _ hd hd', ?_, (hbills _ hd).subtotal⟩
  rwa [InvoiceDraft.entryIds, List.map_map]

end RideLedger
