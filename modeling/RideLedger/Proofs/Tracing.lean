import RideLedger.Proofs.Amounts
import RideLedger.Proofs.Numbering
import RideLedger.Proofs.Operations

/-!
# Tracing — from a marker to its invoice, and from a line to its charge

The store marks every charge that is billed with the invoice that bills it. The markers are exactly
the lines of the stored invoices (`MemoryStore.Traced`), and each line is the image of a stored
charge, which never changes. A draft was drawn from the store some time before it is written, and
what it says is still so then; and the store writes no draft that has a marked entry. So no charge
is on two lines, whoever billed it and in whatever order.
-/

namespace RideLedger

open MemoryStore

/-- The markers of an invoice. -/
def Invoice.markers (i : Invoice) : List ((TenantId × EntryId) × InvoiceId) :=
  i.lines.map fun l => ((i.tenant, l.entry), i.id)

/-- An invoice whose sums are those of its lines, each of which bills a stored charge. -/
structure Invoice.TracedIn (s : MemoryStore) (i : Invoice) : Prop where
  nonempty : i.lines ≠ []
  subtotal : Money.sum (i.lines.map (·.amount)) = .ok i.subtotal
  outstanding : i.subtotal.sub i.paymentsApplied = .ok i.outstanding
  lines : ∀ l ∈ i.lines, l.invoice = i.id ∧ ∃ charge, s.entries.get? l.entry = some charge ∧
    l.Bills i.tenant i.account i.period charge

namespace MemoryStore

variable {cancelled : Bool} {request : StoreRequest} {s s' : MemoryStore} {i : Invoice}
  {ctx : RequestContext} {d : InvoiceDraft}

/-- An invoice stays traced. -/
theorem tracedIn_later (h : i.TracedIn s) (hl : s.entries.items <+: s'.entries.items) :
    i.TracedIn s' where
  nonempty := h.nonempty
  subtotal := h.subtotal
  outstanding := h.outstanding
  lines l hmem := by
    obtain ⟨hinvoice, charge, hget, hbills⟩ := h.lines l hmem
    exact ⟨hinvoice, charge, WriteOnce.get?_of_prefix hl hget, hbills⟩

/-- The sums of a traced invoice are exact when they have room. -/
theorem exact_of_tracedIn (h : i.TracedIn s)
    (hroom : Money.grossUnits (i.lines.map (·.amount)) + i.paymentsApplied.units.natAbs <
      Decimal.mantissaBound) :
    i.subtotal.units = Money.totalUnits (i.lines.map (·.amount)) ∧
      i.outstanding.units = i.subtotal.units - i.paymentsApplied.units := by
  obtain ⟨total, hsum, htotal⟩ := Money.sum_exact (Nat.lt_of_le_of_lt (Nat.le_add_right ..) hroom)
  obtain rfl : total = i.subtotal := Except.ok.inj (hsum.symm.trans h.subtotal)
  have hle : (Money.totalUnits (i.lines.map (·.amount))).natAbs ≤
      Money.grossUnits (i.lines.map (·.amount)) := Money.natAbs_totalUnits_le
  have hrest : (i.subtotal.units - i.paymentsApplied.units).natAbs < Decimal.mantissaBound := by
    omega
  obtain ⟨rest, hsub, hunits⟩ := Money.sub_exact hrest
  obtain rfl : rest = i.outstanding := Except.ok.inj (hsub.symm.trans h.outstanding)
  exact ⟨htotal, hunits⟩

/-- A draft that is drawn from the store is numbered to a traced invoice. -/
theorem tracedIn_of_numbered (hdrawn : d.DrawnFrom s) (h : s.numbered ctx d = .ok i) :
    i.TracedIn s := by
  have hof := numbers_of_numbered h
  exact
    { nonempty := hof.lines ▸ hdrawn.nonempty
      subtotal := by rw [hof.lines, hof.subtotal, hdrawn.subtotal]
      outstanding := by rw [hof.subtotal, hof.paymentsApplied, hof.outstanding]
      lines := by
        rw [hof.lines, hof.id, hof.tenant, hof.account, hof.period]
        exact hdrawn.lines }

/-- A store whose markers are the lines of its invoices, all of them traced. -/
structure Traced (s : MemoryStore) : Prop where
  markers : s.billed.items = s.invoices.values.flatMap Invoice.markers
  invoices : ∀ i ∈ s.invoices.values, i.TracedIn s

theorem traced_empty : empty.Traced := ⟨rfl, fun _ hi => absurd hi List.not_mem_nil⟩

/-- Writes elsewhere leave it traced. -/
theorem Traced.of_eq (h : s.Traced) (hl : s.Extends s') (hbilled : s'.billed = s.billed)
    (hinvoices : s'.invoices = s.invoices) : s'.Traced where
  markers := by rw [hbilled, hinvoices, h.markers]
  invoices i hi := tracedIn_later (h.invoices i (hinvoices ▸ hi)) hl.entries

/-- **A sound request leaves the store traced.** -/
theorem Commit.traced {postable : LedgerTransaction → Prop} (h : Commit cancelled s request s')
    (hs : s.Traced) (hsound : request.Sound postable s) : s'.Traced := by
  have hl := h.extends
  cases h with
  | @invoiced ctx d event i hdraft hnumbered hinvoice hnodup =>
    have hown : i.tenant = ctx.tenant := tenant_of_numbered hdraft hnumbered
    refine ⟨?_, fun j hj => ?_⟩
    · simp [MemoryStore.invoiced, hs.markers, Invoice.markers, hown]
    · simp only [MemoryStore.invoiced, WriteOnce.extend_values, List.map_cons, List.map_nil,
        List.mem_append, List.mem_singleton] at hj
      rcases hj with hj | rfl
      · exact tracedIn_later (hs.invoices j hj) hl.entries
      · exact tracedIn_later (tracedIn_of_numbered hsound hnumbered) hl.entries
  | halfInvoiced hdraft hdup => exact absurd hsound.nodup hdup
  | _ => exact hs.of_eq hl rfl rfl

/-- The bookkeeping of invoices: whatever is posted, they stay traced and numbered. -/
def invoiceKeeping (postable : LedgerTransaction → Prop)
    (posts : ∀ {ids debited credited amount source t},
      PostingShape debited credited source.sourceType → ids.debit ≠ ids.credit →
      (LedgerTransaction.post ids debited credited amount source).Gives t → postable t) :
    Bookkeeping where
  postable := postable
  holds s := s.Traced ∧ s.Numbered
  posts := posts
  kept _ hholds hsound hcommit :=
    ⟨hcommit.traced hholds.1 hsound, hcommit.numbered hholds.2⟩

/-! ## Every charge once -/

/-- The pairs of a tenant and an entry that the invoices bill are those that are marked. -/
theorem Traced.keys_eq (h : s.Traced) :
    s.billed.keys =
      s.invoices.values.flatMap fun i => i.lines.map fun l => (i.tenant, l.entry) := by
  rw [WriteOnce.keys, h.markers, List.map_flatMap]
  simp [Invoice.markers, Function.comp_def]

/-- **A marker is a line of the invoice it names.** -/
theorem Traced.billed_eq_some_iff (h : s.Traced) (hfiled : s.Filed) {tenant : TenantId}
    {entry : EntryId} {invoice : InvoiceId} :
    s.billed.get? (tenant, entry) = some invoice ↔
      ∃ i, s.invoices.get? invoice = some i ∧ i.tenant = tenant ∧
        ∃ l ∈ i.lines, l.entry = entry := by
  have hitem : s.billed.get? (tenant, entry) = some invoice ↔
      ((tenant, entry), invoice) ∈ s.billed.items :=
    ⟨WriteOnce.mem_of_get?, WriteOnce.get?_of_mem hfiled.billed_nodup⟩
  rw [hitem, h.markers, List.mem_flatMap]
  simp only [hfiled.invoice_eq_some_iff, Invoice.markers, List.mem_map, Prod.mk.injEq]
  constructor
  · rintro ⟨i, hi, l, hl, ⟨htenant, hentry⟩, hid⟩
    exact ⟨i, ⟨hi, hid⟩, htenant, l, hl, hentry⟩
  · rintro ⟨i, ⟨hi, hid⟩, htenant, l, hl, hentry⟩
    exact ⟨i, hi, l, hl, ⟨htenant, hentry⟩, hid⟩

/-- **No entry is on two lines**: it would be marked twice for its tenant, and it has one. -/
theorem Traced.lines_nodup (h : s.Traced) (hfiled : s.Filed) :
    (s.invoices.values.flatMap fun i => i.lines.map (·.entry)).Nodup := by
  have hkeys := hfiled.billed_nodup
  rw [h.keys_eq] at hkeys
  have htenant : ∀ key ∈ s.billed.keys, ∃ charge, s.entries.get? key.2 = some charge ∧
      charge.tenant = key.1 := by
    intro key hkey
    rw [h.keys_eq, List.mem_flatMap] at hkey
    obtain ⟨i, hi, hmem⟩ := hkey
    obtain ⟨l, hl, rfl⟩ := List.mem_map.1 hmem
    obtain ⟨-, charge, hget, hbills⟩ := (h.invoices i hi).lines l hl
    exact ⟨charge, hget, hbills.tenant_eq⟩
  have hentries : (s.invoices.values.flatMap fun i => i.lines.map (·.entry)) =
      s.billed.keys.map (·.2) := by
    rw [h.keys_eq, List.map_flatMap]
    simp [Function.comp_def]
  rw [hentries]
  refine List.Nodup.map_on (fun key hkey key' hkey' hsame => ?_) hfiled.billed_nodup
  obtain ⟨charge, hget, hown⟩ := htenant key hkey
  obtain ⟨charge', hget', hown'⟩ := htenant key' hkey'
  rw [hsame, hget'] at hget
  obtain rfl := Option.some.inj hget
  exact Prod.ext (hown.symm.trans hown') hsame

/-- What there is to say of the invoices of a store. -/
structure Traceable (s : MemoryStore) : Prop where
  /-- An entry is marked with an invoice exactly when that invoice has a line for it. -/
  marked : ∀ tenant entry invoice, s.billed.get? (tenant, entry) = some invoice ↔
    ∃ i, s.invoices.get? invoice = some i ∧ i.tenant = tenant ∧ ∃ l ∈ i.lines, l.entry = entry
  /-- No entry is on two lines, of one invoice or of two. -/
  once : (s.invoices.values.flatMap fun i => i.lines.map (·.entry)).Nodup
  /-- Every line bills a stored charge, and the sums are those of the lines. -/
  invoices : ∀ i ∈ s.invoices.values, i.TracedIn s
  /-- The sums are exact when they have room. -/
  exact_ : ∀ i ∈ s.invoices.values,
    Money.grossUnits (i.lines.map (·.amount)) + i.paymentsApplied.units.natAbs <
      Decimal.mantissaBound →
    i.subtotal.units = Money.totalUnits (i.lines.map (·.amount)) ∧
      i.outstanding.units = i.subtotal.units - i.paymentsApplied.units

/-- The invoices of a reachable store are in order, whatever was posted. -/
theorem Reachable.invoicing {postable : LedgerTransaction → Prop} (h : s.Reachable postable) :
    s.Filed ∧ s.Traced ∧ s.Numbered :=
  (h.mono fun _ _ => trivial).books (invoiceKeeping (fun _ => True) fun _ _ _ => trivial)
    ⟨traced_empty, numbered_empty⟩

/-- **The invoices of a reachable store are traceable.** -/
theorem Reachable.traceable (h : s.Reachable fun _ => True) : s.Traceable := by
  obtain ⟨hfiled, htraced, -⟩ := h.invoicing
  exact
    { marked := fun _ _ _ => htraced.billed_eq_some_iff hfiled
      once := htraced.lines_nodup hfiled
      invoices := htraced.invoices
      exact_ := fun i hi hroom => exact_of_tracedIn (htraced.invoices i hi) hroom }

end MemoryStore

end RideLedger
