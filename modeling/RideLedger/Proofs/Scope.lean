import RideLedger.Proofs.Selection

/-!
# Scope — whose entries make up a draft

A draft bills charges and takes payments off. The charges of a request are checked one by one, for
their tenant and their account among other things, so no charge of another tenant or account gets on
a draft. The payments are not checked. They are filtered, and the filter asks for the account, the
kind and the day (`DraftRequest.Credits`), but not for the tenant.

So a draft depends on its payments by those that pass the filter and by no others
(`InvoiceDraft.assemble_relisted`), and each of them takes off its whole amount
(`InvoiceDraft.reducedBy_of_credits`), whatever tenant it belongs to.
-/

namespace RideLedger

open Money (totalUnits grossUnits)

/-! ## Payments that come off -/

/-- What a payment has to be to come off the draft of a request: a receivable credit for a payment,
in the name of the request's account, and created on a day of its period. -/
structure DraftRequest.Credits (r : DraftRequest) (p : LedgerEntry) : Prop where
  account : p.account = r.account
  payment : p.sourceType = .payment
  receivable : p.ledgerAccount = .accountsReceivable
  credit : p.side = .credit
  inPeriod : r.period.start ≤ p.createdAt.date ∧ p.createdAt.date < r.period.finish

namespace InvoiceDraft

variable {ids : DraftIds} {r : DraftRequest} {d d' : InvoiceDraft} {p : LedgerEntry}
  {charges payments before after : List LedgerEntry} {subtotal paid : Money}

/-- The filter of the payments finds out what a payment has to be. -/
theorem counts_iff_credits : counts r p = true ↔ r.Credits p := by
  simp only [counts, LedgerEntry.isPaymentCredit, Bool.and_eq_true, decide_eq_true_eq]
  constructor
  · rintro ⟨⟨haccount, ⟨hpayment, hreceivable⟩, hcredit⟩, hperiod⟩
    exact ⟨haccount, hpayment, hreceivable, hcredit, BillingPeriod.contains_iff.1 hperiod⟩
  · rintro ⟨haccount, hpayment, hreceivable, hcredit, hperiod⟩
    exact ⟨⟨haccount, ⟨hpayment, hreceivable⟩, hcredit⟩, BillingPeriod.contains_iff.2 hperiod⟩

instance : DecidablePred r.Credits := fun _ => decidable_of_iff _ counts_iff_credits

theorem filter_credits (payments : List LedgerEntry) :
    payments.filter (r.Credits ·) = payments.filter (counts r) :=
  List.filter_congr fun p _ => by rw [Bool.eq_iff_iff, decide_eq_true_eq, counts_iff_credits]

/-! ## The other payments -/

/-- The check of the charges does not look at the lists of the request. -/
theorem firstFault?_relisted (seen : List EntryId) (checked : List LedgerEntry) :
    firstFault? (r.relisted charges payments) seen checked = firstFault? r seen checked := by
  induction checked generalizing seen with
  | nil => rfl
  | cons charge rest ih =>
    have hfirst : chargeFault? (r.relisted charges payments) seen charge =
        chargeFault? r seen charge := rfl
    rw [firstFault?, firstFault?, hfirst, ih]

/-- **A draft depends on the payments that come off, and on no others.** -/
theorem assemble_relisted
    (h : payments.filter (r.Credits ·) = r.payments.filter (r.Credits ·)) (ids : DraftIds) :
    assemble ids (r.relisted r.charges payments) = assemble ids r := by
  rw [filter_credits, filter_credits] at h
  have hcounted : (r.relisted r.charges payments).payments.filter
      (counts (r.relisted r.charges payments)) = r.payments.filter (counts r) := h
  have hchecked : firstFault? (r.relisted r.charges payments) []
      (r.relisted r.charges payments).charges = firstFault? r [] r.charges :=
    firstFault?_relisted _ _
  unfold assemble
  rw [hchecked, hcounted]
  rfl

/-! ## One payment more -/

/-- A draft that differs from another one by a payment. -/
structure ReducedBy (amount : Money) (d d' : InvoiceDraft) : Prop where
  lines : d'.lines = d.lines
  subtotal : d'.subtotal = d.subtotal
  paymentsApplied : d'.paymentsApplied.value = d.paymentsApplied.value + amount.value
  outstanding : ∀ number, ∃ i i', d.toInvoice number = .ok i ∧ d'.toInvoice number = .ok i' ∧
    i'.outstanding.value = i.outstanding.value - amount.value

/-- When the sums are known, what is left are the checks of the charges and the due date. -/
theorem gives_iff_of_sums
    (hsubtotal : Money.sum ((linesOf ids r.charges).map (·.amount)) = .ok subtotal)
    (hpaid : Money.sum ((r.payments.filter (counts r)).map (·.creditAmount)) = .ok paid) :
    (assemble ids r).Gives d ↔ r.charges ≠ [] ∧ firstFault? r [] r.charges = none ∧
      ∃ due, r.issueDate.addDays? r.paymentTermsDays = some due ∧
        d = ofSums ids r subtotal paid due := by
  rw [assemble_gives_iff]
  refine and_congr_right fun _ => and_congr_right fun _ => ?_
  simp [hsubtotal, hpaid]

/-- The check of the charges lets through those of the request's tenant and account only. -/
theorem owned_of_gives (hd : (assemble ids r).Gives d) :
    ∀ charge ∈ r.charges, charge.tenant = r.tenant ∧ charge.account = r.account := by
  obtain ⟨-, hnone, -⟩ := assemble_gives_iff.1 hd
  intro charge hcharge
  have hchargeable := (firstFault?_eq_none_iff.1 hnone).1 charge hcharge
  exact ⟨hchargeable.tenant, hchargeable.account⟩

/-- Built charges and payments have room for their sums, up to the capacity of a ledger. -/
theorem room_of_built (hbuilt : ∀ e ∈ charges ++ payments, e.Built)
    (hfew : charges.length + payments.length ≤ ledgerCapacity) :
    grossUnits (charges.map (·.debitAmount)) + grossUnits (payments.map (·.creditAmount)) <
      Decimal.mantissaBound := by
  have hroom := (roomy_of_built hbuilt (by rwa [List.length_append])).both
  rw [List.map_append, List.map_append, Money.grossUnits_append, Money.grossUnits_append] at hroom
  omega

/-- What comes off with one payment more. -/
theorem totalUnits_counted (hp : counts r p = true) :
    totalUnits (((before ++ p :: after).filter (counts r)).map (·.creditAmount)) =
      totalUnits (((before ++ after).filter (counts r)).map (·.creditAmount)) +
        p.creditAmount.units := by
  rw [List.filter_append, List.filter_append, List.filter_cons_of_pos hp, List.map_append,
    List.map_append, List.map_cons, Money.totalUnits_append, Money.totalUnits_append,
    Money.totalUnits_cons]
  ring

/-- **A payment that comes off takes its whole amount off**, and changes nothing else. -/
theorem reducedBy_of_credits (hpayments : r.payments = before ++ after) (hp : r.Credits p)
    (hroom : grossUnits (r.charges.map (·.debitAmount)) +
      grossUnits ((before ++ p :: after).map (·.creditAmount)) < Decimal.mantissaBound)
    (ids : DraftIds) :
    ((∃ d, (assemble ids r).Gives d) ↔
      ∃ d', (assemble ids (r.relisted r.charges (before ++ p :: after))).Gives d') ∧
    ∀ d d', (assemble ids r).Gives d →
      (assemble ids (r.relisted r.charges (before ++ p :: after))).Gives d' →
      d.ReducedBy p.creditAmount d' := by
  have hcounts : counts r p = true := counts_iff_credits.2 hp
  have hfewer : grossUnits (r.charges.map (·.debitAmount)) +
      grossUnits (r.payments.map (·.creditAmount)) < Decimal.mantissaBound := by
    have hsublist : (before ++ after).Sublist (before ++ p :: after) :=
      (List.sublist_cons_self p after).append_left before
    have hle := Money.grossUnits_le_of_sublist (hsublist.map (·.creditAmount))
    rw [hpayments]
    omega
  obtain ⟨subtotal, paid, rest, hsubtotal, hpaid, hrest, -, hunits, hrestunits⟩ :=
    exists_sums hfewer ids
  obtain ⟨subtotal', paid', rest', hsubtotal', hpaid', hrest', -, hunits', hrestunits'⟩ :=
    exists_sums (r := r.relisted r.charges (before ++ p :: after)) hroom ids
  obtain rfl : subtotal = subtotal' := Except.ok.inj (hsubtotal.symm.trans hsubtotal')
  have hmore : paid'.units = paid.units + p.creditAmount.units := by
    rw [hunits, hunits', hpayments]
    exact totalUnits_counted hcounts
  have hless : rest.units = rest'.units + p.creditAmount.units := by omega
  -- both requests pass the same checks, and have the same due date
  have hchecked : firstFault? (r.relisted r.charges (before ++ p :: after)) [] r.charges =
      firstFault? r [] r.charges := firstFault?_relisted ..
  have hgives {d : InvoiceDraft} := gives_iff_of_sums (d := d) hsubtotal hpaid
  have hgives' {d' : InvoiceDraft} := gives_iff_of_sums (d := d') hsubtotal' hpaid'
  refine ⟨?_, fun d d' hd hd' => ?_⟩
  · constructor
    · rintro ⟨d, hd⟩
      obtain ⟨hne, hnone, due, hdue, -⟩ := hgives.1 hd
      exact ⟨_, hgives'.2 ⟨hne, hchecked.trans hnone, due, hdue, rfl⟩⟩
    · rintro ⟨d', hd'⟩
      obtain ⟨hne, hnone, due, hdue, -⟩ := hgives'.1 hd'
      exact ⟨_, hgives.2 ⟨hne, hchecked.symm.trans hnone, due, hdue, rfl⟩⟩
  · obtain ⟨-, -, due, hdue, rfl⟩ := hgives.1 hd
    obtain ⟨-, -, due', hdue', rfl⟩ := hgives'.1 hd'
    refine ⟨rfl, rfl, Money.value_add hmore, fun number => ?_⟩
    refine ⟨_, _, by rw [toInvoice, ofSums, hrest]; rfl, by rw [toInvoice, ofSums, hrest']; rfl, ?_⟩
    exact eq_sub_of_add_eq (Money.value_add hless).symm

end InvoiceDraft

/-! ## Tenants -/

/-- **Whose entries make up a draft.** All charges of a request that a draft is assembled from are
of its tenant and account. Of the payments, the draft depends on those that come off, and on no
others. And if the lists are built entries within the capacity of a ledger, then any payment that
comes off, put anywhere among the others, takes off exactly its amount, which is not zero. To come
off, a payment is asked for its account and not for its tenant. -/
theorem draft_scope (ids : DraftIds) (r : DraftRequest) :
    (∀ d, (InvoiceDraft.assemble ids r).Gives d →
      ∀ charge ∈ r.charges, charge.tenant = r.tenant ∧ charge.account = r.account) ∧
    (∀ payments, payments.filter (r.Credits ·) = r.payments.filter (r.Credits ·) →
      InvoiceDraft.assemble ids (r.relisted r.charges payments) = InvoiceDraft.assemble ids r) ∧
    ∀ before p after, r.payments = before ++ after → r.Credits p →
      (∀ e ∈ r.charges ++ (before ++ p :: after), e.Built) →
      r.charges.length + (before ++ p :: after).length ≤ ledgerCapacity →
      0 < p.creditAmount.value ∧
      ((∃ d, (InvoiceDraft.assemble ids r).Gives d) ↔
        ∃ d', (InvoiceDraft.assemble ids
          (r.relisted r.charges (before ++ p :: after))).Gives d') ∧
      ∀ d d', (InvoiceDraft.assemble ids r).Gives d →
        (InvoiceDraft.assemble ids (r.relisted r.charges (before ++ p :: after))).Gives d' →
        d.ReducedBy p.creditAmount d' := by
  refine ⟨fun d => InvoiceDraft.owned_of_gives,
    fun payments h => InvoiceDraft.assemble_relisted h ids,
    fun before p after hpayments hp hbuilt hfew => ⟨?_, ?_⟩⟩
  · rw [← Money.isPositive_iff_value, Money.isPositive_iff]
    rcases (hbuilt p (by simp)).oneSided with ⟨hdebit, -⟩ | ⟨-, hpositive, -⟩
    · cases hp.credit.symm.trans hdebit
    · exact hpositive
  · exact InvoiceDraft.reducedBy_of_credits hpayments hp
      (InvoiceDraft.room_of_built hbuilt hfew) ids

/-! ## A payment of another tenant -/

/-- A payment of the week, of another tenant but in the name of the week's account. -/
def strayPayment : LedgerEntry where
  id := ⟨.ofNat 8⟩
  tenant := Sample.otherTenant
  account := Sample.unknownAccount
  ledgerAccount := .accountsReceivable
  debitAmount := .zero
  creditAmount := Sample.partialPayment
  sourceType := .payment
  reference := Sample.payment 8
  createdAt := Sample.epoch
  createdBy := Sample.operator.actor
  description := none

/-- It passes the filter, which does not ask for the tenant. -/
theorem credits_strayPayment : weekRequest.Credits strayPayment := by decide +kernel

/-- The entries of the week are built, and so is the stray payment. -/
theorem built_week :
    ∀ e ∈ weekRequest.charges ++ ([] ++ strayPayment :: weekRequest.payments), e.Built := by
  have hposted : ∀ e ∈ weekRequest.charges ++ ([] ++ strayPayment :: weekRequest.payments),
      LedgerEntry.post e.side e.id e.ledgerAccount e.amount
        { tenant := e.tenant, account := e.account, sourceType := e.sourceType
          reference := e.reference, createdAt := e.createdAt, createdBy := e.createdBy
          description := e.description } = .ok e := by decide +kernel
  exact fun e he => ⟨_, _, _, _, _, hposted e he⟩

theorem exists_weekDraft : ∃ d, (InvoiceDraft.assemble (weekIds 10) weekRequest).Gives d := by
  have hbuilt : ∀ e ∈ weekRequest.charges ++ weekRequest.payments, e.Built := fun e he =>
    built_week e (by simp only [List.mem_append, List.mem_cons] at he ⊢; tauto)
  obtain ⟨subtotal, paid, -, hsubtotal, hpaid, -⟩ :=
    InvoiceDraft.exists_sums (InvoiceDraft.room_of_built hbuilt (by decide)) (weekIds 10)
  exact ⟨_, (InvoiceDraft.gives_iff_of_sums hsubtotal hpaid).2
    ⟨by decide, by decide +kernel, { number := 19813 }, by decide +kernel, rfl⟩⟩

/-- The payment of another tenant comes off the draft of the week with its whole amount. -/
theorem draft_scope_week :
    weekRequest.Credits strayPayment ∧ strayPayment.tenant ≠ weekRequest.tenant ∧
    ∃ d d', (InvoiceDraft.assemble (weekIds 10) weekRequest).Gives d ∧
      (InvoiceDraft.assemble (weekIds 10) (weekRequest.relisted weekRequest.charges
        ([] ++ strayPayment :: weekRequest.payments))).Gives d' ∧
      d.ReducedBy Sample.partialPayment d' := by
  obtain ⟨-, -, hmore⟩ := draft_scope (weekIds 10) weekRequest
  obtain ⟨-, hgives, hreduced⟩ := hmore [] strayPayment weekRequest.payments rfl
    credits_strayPayment built_week (by decide)
  obtain ⟨d, hd⟩ := exists_weekDraft
  obtain ⟨d', hd'⟩ := hgives.1 ⟨d, hd⟩
  exact ⟨credits_strayPayment, by decide, d, d', hd, hd', hreduced d d' hd hd'⟩

/-- **A payment of another tenant changes what is owed.** -/
theorem draft_strayPayment :
    strayPayment.tenant ≠ weekRequest.tenant ∧
    ∃ d d', (InvoiceDraft.assemble (weekIds 10) weekRequest).Gives d ∧
      (InvoiceDraft.assemble (weekIds 10) (weekRequest.relisted weekRequest.charges
        (strayPayment :: weekRequest.payments))).Gives d' ∧
      d'.paymentsApplied.value = d.paymentsApplied.value + 10 ∧
      ∀ number, ∃ i i', d.toInvoice number = .ok i ∧ d'.toInvoice number = .ok i' ∧
        i'.outstanding.value = i.outstanding.value - 10 := by
  have hpayments : weekRequest.payments = [] ++ weekRequest.payments := rfl
  obtain ⟨hgives, hreduced⟩ := InvoiceDraft.reducedBy_of_credits hpayments credits_strayPayment
    (InvoiceDraft.room_of_built built_week (by decide)) (weekIds 10)
  obtain ⟨d, hd⟩ := exists_weekDraft
  obtain ⟨d', hd'⟩ := hgives.1 ⟨d, hd⟩
  have hten : strayPayment.creditAmount.value = 10 := by
    norm_num [strayPayment, Sample.partialPayment, Sample.cents, Money.value,
      Decimal.signed]
  have hless := hreduced d d' hd hd'
  rw [← hten]
  exact ⟨by decide, d, d', hd, hd', hless.paymentsApplied, hless.outstanding⟩

end RideLedger
