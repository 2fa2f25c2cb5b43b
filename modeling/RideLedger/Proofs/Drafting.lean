import RideLedger.Proofs.Filing

/-!
# Drafting — where the lines of a draft come from

A draft is assembled from charges that were read earlier, and each of them is checked. So if the
charges were stored entries when they were read, the draft is drawn from the store
(`InvoiceDraft.DrawnFrom`): each of its lines bills one stored charge of the draft's tenant, account
and period, no charge twice, and the subtotal is the sum of the lines. Entries stay as they are, so
a draft that is drawn from a store is drawn from every later one.
-/

namespace RideLedger

/-- The line of a charge: what it bills, of whom and in which period. -/
structure InvoiceLine.Bills (tenant : TenantId) (account : AccountId) (period : BillingPeriod)
    (l : InvoiceLine) (charge : LedgerEntry) : Prop where
  tenant_eq : charge.tenant = tenant
  account_eq : charge.account = account
  billable : charge.isBillable = true
  inPeriod : period.contains charge.createdAt = true
  line_tenant : l.tenant = tenant
  reference : l.reference = charge.reference
  amount : l.amount = charge.debitAmount
  serviceDate : l.serviceDate = charge.serviceDate

/-- A draft that a store bears out. -/
structure InvoiceDraft.DrawnFrom (s : MemoryStore) (d : InvoiceDraft) : Prop where
  nonempty : d.lines ≠ []
  nodup : d.entryIds.Nodup
  subtotal : Money.sum (d.lines.map (·.amount)) = .ok d.subtotal
  lines : ∀ l ∈ d.lines, l.invoice = d.id ∧ ∃ charge, s.entries.get? l.entry = some charge ∧
    l.Bills d.tenant d.account d.period charge

namespace InvoiceDraft

variable {s s' : MemoryStore} {ids : DraftIds} {request : DraftRequest} {d : InvoiceDraft}

/-- **A draft stays drawn from the store.** -/
theorem DrawnFrom.later (h : d.DrawnFrom s) (hs : s.Extends s') : d.DrawnFrom s' where
  nonempty := h.nonempty
  nodup := h.nodup
  subtotal := h.subtotal
  lines l hl := by
    obtain ⟨hinvoice, charge, hget, hbills⟩ := h.lines l hl
    exact ⟨hinvoice, charge, WriteOnce.get?_of_prefix hs.entries hget, hbills⟩

/-! ## Assembling -/

/-- What a charge has to be to have a line. -/
structure Chargeable (request : DraftRequest) (charge : LedgerEntry) : Prop where
  tenant : charge.tenant = request.tenant
  account : charge.account = request.account
  billable : charge.isBillable = true
  inPeriod : request.period.contains charge.createdAt = true

/-- A charge breaks no rule when it is chargeable and was not listed before. -/
theorem chargeFault?_eq_none_iff {seen : List EntryId} {charge : LedgerEntry} :
    chargeFault? request seen charge = none ↔ Chargeable request charge ∧ charge.id ∉ seen := by
  rw [chargeFault?]
  constructor
  · intro h
    split at h
    · cases h
    · next hown =>
      rw [not_or, not_not, not_not] at hown
      split at h
      · cases h
      · next hbillable =>
        split at h
        · cases h
        · next hperiod =>
          split at h
          · cases h
          · next hseen =>
            exact ⟨⟨hown.1, hown.2, by simpa using hbillable, by simpa using hperiod⟩, hseen⟩
  · rintro ⟨⟨htenant, haccount, hbillable, hperiod⟩, hseen⟩
    simp [htenant, haccount, hbillable, hperiod, hseen]

/-- Charges break no rule when each is chargeable and all are different, from each other and from
those listed before. -/
theorem firstFault?_eq_none_iff {seen : List EntryId} {charges : List LedgerEntry} :
    firstFault? request seen charges = none ↔
      (∀ charge ∈ charges, Chargeable request charge) ∧ (charges.map (·.id)).Nodup ∧
        ∀ charge ∈ charges, charge.id ∉ seen := by
  induction charges generalizing seen with
  | nil => simp [firstFault?]
  | cons charge rest ih =>
    cases hfault : chargeFault? request seen charge with
    | some r =>
      simp only [firstFault?, hfault, reduceCtorEq, false_iff]
      rintro ⟨hchargeable, -, hseen⟩
      have hnone := chargeFault?_eq_none_iff.2
        ⟨hchargeable charge (List.mem_cons_self ..), hseen charge (List.mem_cons_self ..)⟩
      rw [hfault] at hnone
      cases hnone
    | none =>
      obtain ⟨hchargeable, hseen⟩ := chargeFault?_eq_none_iff.1 hfault
      simp only [firstFault?, hfault, ih, List.mem_cons, List.map_cons, List.nodup_cons,
        List.mem_map, forall_eq_or_imp, not_or, not_exists, not_and]
      constructor
      · rintro ⟨hrest, hnodup, hnew⟩
        exact ⟨⟨hchargeable, hrest⟩, ⟨fun c hc hid => (hnew c hc).1 hid, hnodup⟩, hseen,
          fun c hc => (hnew c hc).2⟩
      · rintro ⟨⟨-, hrest⟩, ⟨hfirst, hnodup⟩, -, hnew⟩
        exact ⟨hrest, hnodup, fun c hc => ⟨fun hid => hfirst c hc hid, hnew c hc⟩⟩

/-- The lines are those of the charges, in another order. -/
theorem linesOf_perm {charges : List LedgerEntry} :
    (linesOf ids charges).Perm
      (charges.mapIdx fun i c => .ofCharge (ids.line i) ids.invoice c) :=
  List.mergeSort_perm ..

theorem mem_linesOf {charges : List LedgerEntry} {l : InvoiceLine} :
    l ∈ linesOf ids charges ↔
      ∃ i, ∃ h : i < charges.length, .ofCharge (ids.line i) ids.invoice charges[i] = l := by
  rw [linesOf_perm.mem_iff, List.mem_mapIdx]

/-- What the lines have of their charges is, as a whole, what the charges have. -/
theorem linesOf_map_perm {β : Type} {charges : List LedgerEntry} (ofLine : InvoiceLine → β)
    (ofCharge : LedgerEntry → β)
    (h : ∀ id invoice charge, ofLine (.ofCharge id invoice charge) = ofCharge charge) :
    ((linesOf ids charges).map ofLine).Perm (charges.map ofCharge) := by
  refine (linesOf_perm.map ofLine).trans (.of_eq ?_)
  exact List.ext_getElem (by simp) fun i _ _ => by simp [h]

/-- The draft of a request, when its sums are known. -/
def ofSums (ids : DraftIds) (request : DraftRequest) (subtotal paymentsApplied : Money)
    (dueDate : Date) : InvoiceDraft :=
  { id := ids.invoice, tenant := request.tenant, account := request.account
    period := request.period, issueDate := request.issueDate, dueDate := dueDate
    subtotal := subtotal, paymentsApplied := paymentsApplied
    lines := linesOf ids request.charges, generatedAt := request.generatedAt
    generatedBy := request.generatedBy }

/-- **When a draft is assembled, and which.** -/
theorem assemble_gives_iff :
    (assemble ids request).Gives d ↔
      request.charges ≠ [] ∧ firstFault? request [] request.charges = none ∧
        ∃ subtotal paymentsApplied dueDate,
          Money.sum ((linesOf ids request.charges).map (·.amount)) = .ok subtotal ∧
          Money.sum ((request.payments.filter (counts request)).map (·.creditAmount)) =
            .ok paymentsApplied ∧
          request.issueDate.addDays? request.paymentTermsDays = some dueDate ∧
          d = ofSums ids request subtotal paymentsApplied dueDate := by
  unfold assemble
  simp only [Outcome.gives_guard_throw]
  refine and_congr Iff.rfl ?_
  cases hfault : firstFault? request [] request.charges with
  | some r => simp [Outcome.gives_bind]
  | none =>
    simp only [Outcome.gives_bind, Outcome.gives_lift, true_and]
    constructor
    · rintro ⟨subtotal, hsubtotal, paymentsApplied, hpayments, hd⟩
      cases hdue : request.issueDate.addDays? request.paymentTermsDays with
      | none =>
        rw [hdue] at hd
        exact absurd hd Outcome.not_gives_refuse
      | some dueDate =>
        rw [hdue] at hd
        exact ⟨subtotal, paymentsApplied, dueDate, hsubtotal, hpayments, rfl,
          (Outcome.gives_pure.1 hd).symm⟩
    · rintro ⟨subtotal, paymentsApplied, dueDate, hsubtotal, hpayments, hdue, rfl⟩
      refine ⟨subtotal, hsubtotal, paymentsApplied, hpayments, ?_⟩
      rw [hdue]
      exact Outcome.gives_pure.2 rfl

/-- An assembled draft bills no entry twice. -/
theorem nodup_of_assemble (h : (assemble ids request).Gives d) : d.entryIds.Nodup := by
  obtain ⟨-, hfault, subtotal, paymentsApplied, dueDate, -, -, -, rfl⟩ := assemble_gives_iff.1 h
  have hnodup := (firstFault?_eq_none_iff.1 hfault).2.1
  exact (linesOf_map_perm (·.entry) (·.id) fun _ _ _ => rfl).nodup_iff.2 hnodup

/-- **The lines of an assembled draft bill its charges.** -/
theorem lines_of_assemble (h : (assemble ids request).Gives d) :
    d.lines ≠ [] ∧ ∀ l ∈ d.lines, l.invoice = d.id ∧ ∃ charge ∈ request.charges,
      l.entry = charge.id ∧ l.Bills d.tenant d.account d.period charge := by
  obtain ⟨hne, hfault, subtotal, paymentsApplied, dueDate, -, -, -, rfl⟩ := assemble_gives_iff.1 h
  obtain ⟨hchargeable, -, -⟩ := firstFault?_eq_none_iff.1 hfault
  refine ⟨fun hlines => ?_, fun l hl => ?_⟩
  · have hperm : (linesOf ids request.charges).Perm _ := linesOf_perm
    have hlength := hperm.length_eq
    rw [show linesOf ids request.charges = [] from hlines, List.length_mapIdx] at hlength
    exact hne (List.eq_nil_of_length_eq_zero hlength.symm)
  · obtain ⟨i, hi, rfl⟩ := mem_linesOf.1 hl
    have hmem := List.getElem_mem hi
    obtain ⟨htenant, haccount, hbillable, hperiod⟩ := hchargeable _ hmem
    exact ⟨rfl, _, hmem, rfl, htenant, haccount, hbillable, hperiod, htenant, rfl, rfl, rfl⟩

/-- **A draft that was assembled from stored charges is drawn from the store.** -/
theorem drawnFrom_of_assemble (h : (assemble ids request).Gives d)
    (hstored : ∀ charge ∈ request.charges, s.entries.get? charge.id = some charge) :
    d.DrawnFrom s ∧ d.tenant = request.tenant := by
  obtain ⟨hne, hlines⟩ := lines_of_assemble h
  have hnodup := nodup_of_assemble h
  obtain ⟨-, -, subtotal, paymentsApplied, dueDate, hsubtotal, -, -, rfl⟩ := assemble_gives_iff.1 h
  refine ⟨⟨hne, hnodup, hsubtotal, fun l hl => ?_⟩, rfl⟩
  obtain ⟨hinvoice, charge, hmem, hentry, hbills⟩ := hlines l hl
  exact ⟨hinvoice, charge, hentry ▸ hstored charge hmem, hbills⟩

end InvoiceDraft

end RideLedger
