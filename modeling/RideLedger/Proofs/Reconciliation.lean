import Mathlib.Algebra.BigOperators.Group.List.Basic
import Mathlib.Data.List.Flatten
import RideLedger.Proofs.Alone
import RideLedger.Proofs.Contest
import RideLedger.Proofs.Isolation
import RideLedger.Proofs.Tracing

/-!
# Reconciliation — balances, invoices and totals agree

Where only rides and payments are posted, what an account owes can be read off in two ways: from its
receivable entries, and from its invoices, its charges that are on no invoice yet and its payments.
And what a tenant's accounts owe together is the net of its receivables, what it earned is the sum
of its rides, and what it received is the sum of its payments (`MemoryStore.Reconciles`).

Each entry of a ride or a payment counts in one of these sums at most (`LedgerEntry.Counted`), and
the charges on the invoices of an account are its billed charges, each once
(`MemoryStore.Traced.billed_perm`).
-/

namespace RideLedger

open Money (totalUnits totalUnits_filter grossUnits)

/-! ## Sums over selections -/

section Sums

variable {κ α : Type} [DecidableEq κ] {key : α → κ} {f : α → Int} {keys : List κ} {l : List α}

/-- A key that is listed once picks out its own value. -/
theorem sum_ite_key {k : κ} {n : Int} (hnodup : keys.Nodup) (hk : k ∈ keys) :
    (keys.map fun k' => if k = k' then n else 0).sum = n := by
  induction keys with
  | nil => cases hk
  | cons first rest ih =>
    obtain ⟨hfirst, hrest⟩ := List.nodup_cons.1 hnodup
    rw [List.map_cons, List.sum_cons]
    rcases List.mem_cons.1 hk with rfl | hk
    · have hnone : (rest.map fun k' => if k = k' then n else 0).sum = 0 := by
        refine List.sum_eq_zero fun x hx => ?_
        obtain ⟨k', hk', rfl⟩ := List.mem_map.1 hx
        have hne : k ≠ k' := fun heq => hfirst (heq ▸ hk')
        exact if_neg hne
      rw [hnone, if_pos rfl, Int.add_zero]
    · have hne : k ≠ first := fun heq => hfirst (heq ▸ hk)
      rw [if_neg hne, Int.zero_add, ih hrest hk]

/-- **Keys share the items among them**: where every item has one of the keys, the sums by key add
up to the sum of all. -/
theorem sum_by_key (hnodup : keys.Nodup) (hkeys : ∀ a ∈ l, key a ∈ keys) :
    (keys.map fun k => ((l.filter (key · = k)).map f).sum).sum = (l.map f).sum := by
  induction l with
  | nil => simp
  | cons a rest ih =>
    have hrest := ih fun a' ha' => hkeys a' (List.mem_cons_of_mem _ ha')
    have hsplit : (fun k => (((a :: rest).filter (key · = k)).map f).sum) = fun k =>
        (if key a = k then f a else 0) + ((rest.filter (key · = k)).map f).sum := by
      funext k
      by_cases hk : key a = k <;> simp [hk]
    rw [hsplit, List.sum_map_add, hrest, sum_ite_key hnodup (hkeys a (List.mem_cons_self ..)),
      List.map_cons, List.sum_cons]

end Sums

/-! ## Rides and payments -/

theorem PostingShape.cases_iff {debited credited : LedgerAccount} {source : SourceType} :
    PostingShape debited credited source ↔
      (debited = .accountsReceivable ∧ credited = .serviceRevenue ∧ source = .rideCharge) ∨
        (debited = .cash ∧ credited = .accountsReceivable ∧ source = .payment) := by
  constructor
  · intro h
    cases h with
    | ride => exact .inl ⟨rfl, rfl, rfl⟩
    | payment => exact .inr ⟨rfl, rfl, rfl⟩
  · rintro (⟨rfl, rfl, rfl⟩ | ⟨rfl, rfl, rfl⟩)
    · exact .ride
    · exact .payment

namespace LedgerEntry

/-- What an entry adds to the charges. -/
def charged (e : LedgerEntry) : Int := if e.isBillable then e.debitAmount.units else 0

/-- What an entry adds to the payments. -/
def paid (e : LedgerEntry) : Int := if e.isPaymentCredit then e.creditAmount.units else 0

/-- An entry that adds its charge to a balance, and takes its payment off. -/
structure Counted (e : LedgerEntry) : Prop where
  delta : e.receivableDelta.units = e.charged - e.paid
  net : e.receivableDelta.units =
    if e.ledgerAccount = .accountsReceivable then e.debitAmount.units - e.creditAmount.units else 0

end LedgerEntry

namespace LedgerTransaction

variable {t : LedgerTransaction}

/-- The ledger accounts and the source of a ride or of a payment. -/
def Shape (t : LedgerTransaction) : Prop :=
  PostingShape t.debit.ledgerAccount t.credit.ledgerAccount t.sourceType

/-- A built transaction of this shape. -/
def Shaped (t : LedgerTransaction) : Prop := t.Built ∧ t.Shape

/-- A posting has the shape it was made in. -/
theorem shaped_of_post {ids : TransactionIds} {debited credited : LedgerAccount} {amount : Money}
    {source : EntrySource} (hshape : PostingShape debited credited source.sourceType)
    (hids : ids.debit ≠ ids.credit) (h : (post ids debited credited amount source).Gives t) :
    t.Shaped := by
  obtain ⟨hdebit, hcredit⟩ := postedAs h
  refine ⟨built_of_post hids h, ?_⟩
  rw [Shape, hdebit.ledgerAccount, hcredit.ledgerAccount, LedgerTransaction.sourceType,
    hdebit.sourceType]
  exact hshape

/-- How the entries of a transaction count, one by one and together. -/
structure Counts (t : LedgerTransaction) : Prop where
  debit : t.debit.Counted
  credit : t.credit.Counted
  revenue :
    (if t.debit.ledgerAccount = .serviceRevenue then t.debit.creditAmount.units else 0) +
      (if t.credit.ledgerAccount = .serviceRevenue then t.credit.creditAmount.units else 0) =
      t.debit.charged + t.credit.charged
  cash :
    (if t.debit.ledgerAccount = .cash then t.debit.debitAmount.units else 0) +
      (if t.credit.ledgerAccount = .cash then t.credit.debitAmount.units else 0) =
      t.debit.paid + t.credit.paid

/-- **A ride counts as a charge, and a payment as a payment.** -/
theorem counts_of_shape (hdouble : DoubleEntry t.debit t.credit) (hshape : t.Shape) :
    t.Counts := by
  obtain ⟨hdebit, hcredit⟩ := hdouble.sides
  have hdebitOnly := hdouble.debit_only
  have hcreditOnly := hdouble.credit_only
  have hequal := hdouble.equal
  have hsource := hdouble.sourceType
  rcases PostingShape.cases_iff.1 hshape with ⟨hdebited, hcredited, hride⟩ |
    ⟨hdebited, hcredited, hpayment⟩
  · have hride : t.debit.sourceType = .rideCharge := hride
    rw [hride] at hsource
    constructor
    · constructor <;>
        simp [LedgerEntry.receivableDelta, LedgerEntry.charged, LedgerEntry.paid,
          LedgerEntry.isBillable, LedgerEntry.isPaymentCredit, hdebited, hdebit, hride, hdebitOnly]
    · constructor <;>
        simp [LedgerEntry.receivableDelta, LedgerEntry.charged, LedgerEntry.paid,
          LedgerEntry.isBillable, LedgerEntry.isPaymentCredit, hcredited]
    · simp [LedgerEntry.charged, LedgerEntry.isBillable, hdebited, hcredited, hdebit, hride, hequal]
    · simp [LedgerEntry.paid, LedgerEntry.isPaymentCredit, hdebited, hcredited, hride]
  · have hpayment : t.debit.sourceType = .payment := hpayment
    rw [hpayment] at hsource
    constructor
    · constructor <;>
        simp [LedgerEntry.receivableDelta, LedgerEntry.charged, LedgerEntry.paid,
          LedgerEntry.isBillable, LedgerEntry.isPaymentCredit, hdebited]
    · constructor <;>
        simp [LedgerEntry.receivableDelta, LedgerEntry.charged, LedgerEntry.paid,
          LedgerEntry.isBillable, LedgerEntry.isPaymentCredit, hcredited, hcredit, ← hsource,
          hcreditOnly, Money.units_neg]
    · simp [LedgerEntry.charged, LedgerEntry.isBillable, hdebited, hcredited, hpayment, ← hsource]
    · simp [LedgerEntry.paid, LedgerEntry.isPaymentCredit, hdebited, hcredited, hcredit, hpayment,
        ← hsource, hequal]

end LedgerTransaction

namespace MemoryStore

variable {cancelled : Bool} {request : StoreRequest} {s s' : MemoryStore} {ctx : RequestContext}
  {tenant : TenantId} {account : AccountId} {journal : List LedgerTransaction}

/-! ## What there is to agree -/

/-- The invoices of an account. -/
def accountInvoices (tenant : TenantId) (account : AccountId) (s : MemoryStore) : List Invoice :=
  s.invoices.values.filter fun i => i.tenant = tenant && i.account = account

/-- The amounts of all lines of an account's invoices. -/
def lineAmounts (tenant : TenantId) (account : AccountId) (s : MemoryStore) : List Money :=
  (s.accountInvoices tenant account).flatMap fun i => i.lines.map (·.amount)

/-- Whether an invoice has a line for an entry. -/
def onInvoice (s : MemoryStore) (e : LedgerEntry) : Bool :=
  s.invoices.values.any fun i => i.lines.any (·.entry = e.id)

/-- The charges of an account that are on no invoice. -/
def openCharges (tenant : TenantId) (account : AccountId) (s : MemoryStore) : List LedgerEntry :=
  (s.accountEntries tenant account).filter fun e => e.isBillable && !s.onInvoice e

/-- The payments of an account. -/
def accountPayments (tenant : TenantId) (account : AccountId) (s : MemoryStore) :
    List LedgerEntry :=
  (s.accountEntries tenant account).filter (·.isPaymentCredit)

theorem mem_accountEntries {e : LedgerEntry} :
    e ∈ s.accountEntries tenant account ↔
      e ∈ s.entries.values ∧ e.tenant = tenant ∧ e.account = account := by
  simp only [accountEntries, tenantEntries, List.mem_filter, decide_eq_true_eq, and_assoc]

theorem onInvoice_iff {e : LedgerEntry} :
    s.onInvoice e = true ↔ ∃ i ∈ s.invoices.values, ∃ l ∈ i.lines, l.entry = e.id := by
  simp [onInvoice]

/-- The line of a stored invoice that is for an entry bills this very entry. -/
theorem Traced.bills (h : s.Traced) (hfiled : s.Filed) {i : Invoice} {l : InvoiceLine}
    {e : LedgerEntry} (hi : i ∈ s.invoices.values) (hl : l ∈ i.lines)
    (he : e ∈ s.entries.values) (hentry : l.entry = e.id) :
    l.Bills i.tenant i.account i.period e := by
  obtain ⟨-, charge, hget, hbills⟩ := (h.invoices i hi).lines l hl
  have hsame := hfiled.get?_eq_some_iff.2 ⟨he, hentry.symm⟩
  rw [hget] at hsame
  obtain rfl := Option.some.inj hsame
  exact hbills

/-- **An entry is marked as billed when it is on an invoice.** -/
theorem Traced.marked_iff (h : s.Traced) (hfiled : s.Filed) {e : LedgerEntry}
    (he : e ∈ s.entries.values) :
    (e.tenant, e.id) ∈ s.billed.keys ↔ s.onInvoice e = true := by
  rw [h.keys_eq, onInvoice_iff]
  simp only [List.mem_flatMap, List.mem_map, Prod.mk.injEq]
  constructor
  · rintro ⟨i, hi, l, hl, -, hentry⟩
    exact ⟨i, hi, l, hl, hentry⟩
  · rintro ⟨i, hi, l, hl, hentry⟩
    have hbills := h.bills hfiled hi hl he hentry
    exact ⟨i, hi, l, hl, hbills.tenant_eq.symm, hentry⟩

/-- **The lines of an account's invoices are for its billed charges, each once.** -/
theorem Traced.billed_perm (h : s.Traced) (hfiled : s.Filed) :
    ((s.accountInvoices tenant account).flatMap fun i => i.lines.map (·.entry)).Perm
      (((s.accountEntries tenant account).filter fun e => e.isBillable && s.onInvoice e).map
        (·.id)) := by
  have hlines : ((s.accountInvoices tenant account).flatMap fun i =>
      i.lines.map (·.entry)).Nodup :=
    (List.filter_sublist.flatMap _).nodup (h.lines_nodup hfiled)
  have hentries : (((s.accountEntries tenant account).filter fun e =>
      e.isBillable && s.onInvoice e).map (·.id)).Nodup := by
    have hsome : ((s.accountEntries tenant account).filter fun e =>
        e.isBillable && s.onInvoice e).Sublist s.entries.values :=
      List.filter_sublist.trans (List.filter_sublist.trans List.filter_sublist)
    exact (hsome.map _).nodup hfiled.ids_nodup
  rw [List.perm_ext_iff_of_nodup hlines hentries]
  intro id
  simp only [List.mem_flatMap, List.mem_map, List.mem_filter, accountInvoices, mem_accountEntries,
    Bool.and_eq_true, decide_eq_true_eq, onInvoice_iff]
  constructor
  · rintro ⟨i, ⟨hi, htenant, haccount⟩, l, hl, rfl⟩
    obtain ⟨-, charge, hget, hbills⟩ := (h.invoices i hi).lines l hl
    obtain ⟨hvalue, hid⟩ := hfiled.get?_eq_some_iff.1 hget
    exact ⟨charge, ⟨⟨hvalue, hbills.tenant_eq.trans htenant, hbills.account_eq.trans haccount⟩,
      hbills.billable, i, hi, l, hl, hid.symm⟩, hid⟩
  · rintro ⟨e, ⟨⟨hvalue, htenant, haccount⟩, -, i, hi, l, hl, hentry⟩, rfl⟩
    have hbills := h.bills hfiled hi hl hvalue hentry
    exact ⟨i, ⟨hi, hbills.tenant_eq.symm.trans htenant, hbills.account_eq.symm.trans haccount⟩,
      l, hl, hentry⟩

/-- The amount of a stored charge, by its identifier. -/
def chargeAmount (s : MemoryStore) (id : EntryId) : Money :=
  ((s.entries.get? id).map (·.debitAmount)).getD Money.zero

/-- **What an account's invoices come to is what its billed charges come to.** -/
theorem Traced.lineAmounts_perm (h : s.Traced) (hfiled : s.Filed) :
    (s.lineAmounts tenant account).Perm
      (((s.accountEntries tenant account).filter fun e => e.isBillable && s.onInvoice e).map
        (·.debitAmount)) := by
  -- both sides are read off the identifiers of the entries
  have hlines : s.lineAmounts tenant account =
      ((s.accountInvoices tenant account).flatMap fun i => i.lines.map (·.entry)).map
        s.chargeAmount := by
    rw [lineAmounts, List.map_flatMap]
    refine List.flatMap_congr fun i hi => ?_
    rw [List.map_map]
    refine List.map_congr_left fun l hl => ?_
    obtain ⟨-, charge, hget, hbills⟩ := (h.invoices i (List.mem_of_mem_filter hi)).lines l hl
    rw [Function.comp_apply, chargeAmount, hget, hbills.amount]
    rfl
  have hcharges : (((s.accountEntries tenant account).filter fun e =>
      e.isBillable && s.onInvoice e).map (·.debitAmount)) =
      (((s.accountEntries tenant account).filter fun e =>
        e.isBillable && s.onInvoice e).map (·.id)).map s.chargeAmount := by
    rw [List.map_map]
    refine List.map_congr_left fun e he => ?_
    have hvalue := (mem_accountEntries.1 (List.mem_of_mem_filter he)).1
    rw [Function.comp_apply, chargeAmount, hfiled.get?_eq_some_iff.2 ⟨hvalue, rfl⟩]
    rfl
  rw [hlines, hcharges]
  exact (h.billed_perm hfiled).map _

/-! ## The bookkeeping of rides and payments -/

/-- A store in which the account of every entry is there. -/
def Housed (s : MemoryStore) : Prop :=
  ∀ e ∈ s.entries.values, ∃ a, s.account? e.tenant e.account = some a

/-- The entries of rides and payments of accounts that are there. -/
structure RidesAndPayments (s : MemoryStore) : Prop where
  journal : ∃ journal, IsJournal journal s ∧ ∀ t ∈ journal, t.Shape
  housed : s.Housed

theorem ridesAndPayments_empty : empty.RidesAndPayments :=
  ⟨⟨[], ⟨by simp, rfl, rfl⟩, by simp⟩, fun _ he => absurd he List.not_mem_nil⟩

/-- An account that is there is there after any request. -/
theorem Commit.account_stays (h : Commit cancelled s request s') {id : AccountId}
    (ha : ∃ a, s.account? tenant id = some a) : ∃ a, s'.account? tenant id = some a := by
  obtain ⟨a, ha⟩ := ha
  cases h with
  | opened => exact ⟨a, Contest.account?_opened ha⟩
  | updated htenant hlive hfound => exact Contest.account?_updated ha hfound htenant
  | _ => exact ⟨a, ha⟩

/-- **Requests that post rides and payments leave it at that.** -/
theorem Commit.ridesAndPayments (h : Commit cancelled s request s') (hs : s.RidesAndPayments)
    (hsound : request.Sound LedgerTransaction.Shaped s) : s'.RidesAndPayments := by
  obtain ⟨journal, hjournal, hshapes⟩ := hs.journal
  have hstays {e : LedgerEntry} (he : e ∈ s.entries.values) :
      ∃ a, s'.account? e.tenant e.account = some a := h.account_stays (hs.housed e he)
  cases h with
  | @posted ctx t event hadmits hdistinct =>
    have hdouble := (LedgerTransaction.Built.doubleEntry hsound.1).1
    refine ⟨⟨journal ++ [t], hjournal.posted hdouble hadmits.tenant, ?_⟩, ?_⟩
    · exact List.forall_mem_append.2 ⟨hshapes, by simpa using hsound.2⟩
    · obtain ⟨a, ha, -⟩ := hadmits.account
      have hdebit : s.account? t.debit.tenant t.debit.account = some a := by
        rw [← hadmits.tenant] at ha
        exact ha
      intro e he
      simp only [MemoryStore.posted, WriteOnce.extend_values, List.map_cons, List.map_nil,
        List.mem_append, List.mem_pair] at he
      rcases he with he | rfl | rfl
      · exact hstays he
      · exact ⟨a, hdebit⟩
      · rw [← hdouble.tenant, ← hdouble.account]
        exact ⟨a, hdebit⟩
  | halfPosted hadmits hsame =>
    exact absurd hsame (LedgerTransaction.Built.doubleEntry hsound.1).2
  | _ => exact ⟨⟨journal, hjournal.of_eq rfl rfl, hshapes⟩, fun e he => hstays he⟩

/-- The bookkeeping of rides and payments. -/
def reconciledKeeping : Bookkeeping where
  postable := LedgerTransaction.Shaped
  holds := RidesAndPayments
  posts := LedgerTransaction.shaped_of_post
  kept _ hholds hsound hcommit := hcommit.ridesAndPayments hholds hsound

/-! ## Exact balances -/

/-- The entries of rides and payments count as such. -/
theorem RidesAndPayments.counted (h : s.RidesAndPayments) {e : LedgerEntry}
    (he : e ∈ s.entries.values) : e.Counted := by
  obtain ⟨journal, hjournal, hshapes⟩ := h.journal
  rw [hjournal.values] at he
  obtain ⟨t, ht, het⟩ := List.mem_flatMap.1 he
  have hcounts := LedgerTransaction.counts_of_shape (hjournal.double t ht) (hshapes t ht)
  rcases List.mem_pair.1 het with rfl | rfl
  · exact hcounts.debit
  · exact hcounts.credit

/-- What counted entries add to a balance is their charges less their payments. -/
theorem total_receivable {entries : List LedgerEntry} (h : ∀ e ∈ entries, e.Counted) :
    totalUnits (entries.map (·.receivableDelta)) =
      totalUnits ((entries.filter (·.isBillable)).map (·.debitAmount)) -
        totalUnits ((entries.filter (·.isPaymentCredit)).map (·.creditAmount)) := by
  rw [totalUnits_filter, totalUnits_filter, totalUnits, List.map_map]
  induction entries with
  | nil => rfl
  | cons e rest ih =>
    have hfirst : e.receivableDelta.units = e.charged - e.paid :=
      (h e (List.mem_cons_self ..)).delta
    have hrest := ih fun e' he' => h e' (List.mem_cons_of_mem _ he')
    rw [LedgerEntry.charged, LedgerEntry.paid] at hfirst
    simp only [List.map_cons, List.sum_cons, Function.comp_apply] at hrest ⊢
    omega

/-- And it is the debits less the credits of the receivables. -/
theorem total_net {entries : List LedgerEntry} (h : ∀ e ∈ entries, e.Counted) :
    totalUnits (entries.map (·.receivableDelta)) =
      unitsOn (·.debitAmount) entries .accountsReceivable -
        unitsOn (·.creditAmount) entries .accountsReceivable := by
  rw [unitsOn, unitsOn, totalUnits_filter, totalUnits_filter, totalUnits, List.map_map]
  induction entries with
  | nil => rfl
  | cons e rest ih =>
    have hfirst := (h e (List.mem_cons_self ..)).net
    have hrest := ih fun e' he' => h e' (List.mem_cons_of_mem _ he')
    simp only [List.map_cons, List.sum_cons, Function.comp_apply, decide_eq_true_eq] at hrest ⊢
    split at hfirst
    · next haccount =>
      simp only [haccount, ↓reduceIte]
      omega
    · next haccount =>
      simp only [haccount, ↓reduceIte]
      omega

/-- The charges of an account are those on its invoices and the open ones. -/
theorem total_charges :
    totalUnits (((s.accountEntries tenant account).filter (·.isBillable)).map (·.debitAmount)) =
      totalUnits (((s.accountEntries tenant account).filter fun e =>
        e.isBillable && s.onInvoice e).map (·.debitAmount)) +
        totalUnits ((s.openCharges tenant account).map (·.debitAmount)) := by
  rw [openCharges, totalUnits_filter, totalUnits_filter, totalUnits_filter, ← List.sum_map_add]
  congr 1
  refine List.map_congr_left fun e _ => ?_
  cases e.isBillable <;> cases s.onInvoice e <;> simp

/-- The balance of an account that is there, with room for the tenant's entries, is the exact sum of
what its entries add. -/
theorem exists_balance (now : Instant) (supply : Supply) {a : Account}
    (hroom : Roomy (s.tenantEntries ctx.tenant)) (ha : s.account? ctx.tenant account = some a) :
    ∃ balance, s.receivableBalance ctx account none = .ok balance ∧
      Runs (Ledger.balance ctx account) ⟨now, supply, s⟩ (.ok balance) ⟨now, supply, s⟩ ∧
      balance.units =
        totalUnits ((s.accountEntries ctx.tenant account).map (·.receivableDelta)) := by
  have hown : Roomy (s.accountEntries ctx.tenant account) := hroom.of_sublist List.filter_sublist
  obtain ⟨balance, hsum, hunits⟩ := hown.receivable
  have hbalance : s.receivableBalance ctx account none = .ok balance := by
    have hall : (s.accountEntries ctx.tenant account).filter
        (fun e => (none : Option Instant).all (e.createdAt < ·)) =
          s.accountEntries ctx.tenant account := List.filter_eq_self.2 fun e _ => rfl
    rw [receivableBalance, hall, hsum]
  have hserve : s.serve false (.receivableBalance ctx account none) = .ok (.ok balance, s) := by
    rw [serve, hbalance]
    rfl
  exact ⟨balance, hbalance, runs_bind (runs_get ha) (runs_demand hserve), hunits⟩

/-- **What an account owes**: the lines of its invoices and its open charges, less its payments. -/
theorem RidesAndPayments.owed (h : s.RidesAndPayments) (hfiled : s.Filed) (htraced : s.Traced) :
    totalUnits ((s.accountEntries tenant account).map (·.receivableDelta)) =
      totalUnits (s.lineAmounts tenant account) +
        totalUnits ((s.openCharges tenant account).map (·.debitAmount)) -
        totalUnits ((s.accountPayments tenant account).map (·.creditAmount)) := by
  have hcounted : ∀ e ∈ s.accountEntries tenant account, e.Counted :=
    fun e he => h.counted (mem_accountEntries.1 he).1
  rw [total_receivable hcounted, total_charges, accountPayments,
    Money.totalUnits_perm (htraced.lineAmounts_perm hfiled)]

/-- The selection of unbilled charges is one of open charges. -/
theorem Traced.unbilledCharges_eq (h : s.Traced) (hfiled : s.Filed) (period : BillingPeriod) :
    s.unbilledCharges ctx account period = LedgerEntry.sortByTime
      ((s.openCharges ctx.tenant account).filter fun e => period.contains e.createdAt) := by
  rw [unbilledCharges, openCharges, List.filter_filter]
  congr 1
  refine List.filter_congr fun e he => ?_
  obtain ⟨hvalue, htenant, -⟩ := mem_accountEntries.1 he
  have hmarked : s.billed.contains (ctx.tenant, e.id) = s.onInvoice e := by
    rw [Bool.eq_iff_iff, WriteOnce.contains_iff, ← htenant, h.marked_iff hfiled hvalue]
  rw [hmarked]
  cases e.isBillable <;> cases period.contains e.createdAt <;> cases s.onInvoice e <;> rfl

/-! ## What a tenant's accounts come to -/

/-- **The accounts of a tenant share its entries among them.** -/
theorem RidesAndPayments.sum_accounts (h : s.RidesAndPayments) (hfiled : s.Filed)
    (tenant : TenantId) (f : LedgerEntry → Int) :
    ((s.accounts.filter (·.tenant = tenant)).map fun a =>
      ((s.accountEntries tenant a.id).map f).sum).sum = ((s.tenantEntries tenant).map f).sum := by
  have hnodup : ((s.accounts.filter (·.tenant = tenant)).map (·.id)).Nodup :=
    nodup_filter_key hfiled.accounts_nodup _
  have hkeys : ∀ e ∈ s.tenantEntries tenant,
      e.account ∈ (s.accounts.filter (·.tenant = tenant)).map (·.id) := by
    intro e he
    obtain ⟨hvalue, htenant⟩ := List.mem_filter.1 he
    obtain ⟨a, ha⟩ := h.housed e hvalue
    rw [of_decide_eq_true htenant] at ha
    obtain ⟨hmem, hid, hown⟩ := hfiled.account?_eq_some_iff.1 ha
    exact List.mem_map.2 ⟨a, List.mem_filter.2 ⟨hmem, decide_eq_true hown⟩, hid⟩
  have hsum := sum_by_key (f := f) hnodup hkeys
  rw [List.map_map] at hsum
  exact hsum

/-- **A tenant's rides are what it earned, and its payments are what it received.** -/
theorem RidesAndPayments.earned_and_received (h : s.RidesAndPayments) (tenant : TenantId) :
    unitsOn (·.creditAmount) (s.tenantEntries tenant) .serviceRevenue =
      totalUnits (((s.tenantEntries tenant).filter (·.isBillable)).map (·.debitAmount)) ∧
    unitsOn (·.debitAmount) (s.tenantEntries tenant) .cash =
      totalUnits (((s.tenantEntries tenant).filter (·.isPaymentCredit)).map (·.creditAmount)) := by
  obtain ⟨journal, hjournal, hshapes⟩ := h.journal
  have htenant : ∀ t ∈ journal, t.debit.tenant = t.credit.tenant :=
    fun t ht => (hjournal.double t ht).tenant
  have hcounts : ∀ t ∈ journal, t.Counts :=
    fun t ht => LedgerTransaction.counts_of_shape (hjournal.double t ht) (hshapes t ht)
  rw [unitsOn, unitsOn, totalUnits_filter, totalUnits_filter, totalUnits_filter, totalUnits_filter,
    tenantEntries, hjournal.values]
  constructor
  · refine sum_eq_of_pairs htenant fun t ht => ?_
    simpa only [decide_eq_true_eq, LedgerEntry.charged] using (hcounts t ht).revenue
  · refine sum_eq_of_pairs htenant fun t ht => ?_
    simpa only [decide_eq_true_eq, LedgerEntry.paid] using (hcounts t ht).cash

/-- A trial balance has a line for every ledger account. -/
theorem exists_line {entries : List LedgerEntry} {b : TrialBalance} (h : b.Exact entries)
    (a : LedgerAccount) : ∃ line, b.line? a = some line ∧ AccountTotals.Sums entries a line := by
  obtain ⟨lines, debits, credits⟩ := b
  have hlines := h.lines
  change List.Forall₂ _ [LedgerAccount.accountsReceivable, .serviceRevenue, .cash] lines at hlines
  obtain _ | ⟨hreceivable, _ | ⟨hrevenue, _ | ⟨hcash, _ | _⟩⟩⟩ := hlines
  rename_i receivable revenue cash
  cases a with
  | accountsReceivable => exact ⟨receivable, by simp [TrialBalance.line?, hreceivable.account],
      hreceivable⟩
  | serviceRevenue => exact ⟨revenue, by simp [TrialBalance.line?, hreceivable.account,
      hrevenue.account], hrevenue⟩
  | cash => exact ⟨cash, by simp [TrialBalance.line?, hreceivable.account, hrevenue.account,
      hcash.account], hcash⟩

/-- The net of a ledger account of entries with room is exact. -/
theorem exists_net {entries : List LedgerEntry} {a : LedgerAccount} {line : AccountTotals}
    (hroom : Roomy entries) (h : AccountTotals.Sums entries a line) :
    ∃ net, line.net = .ok net ∧
      net.units = unitsOn (·.debitAmount) entries a - unitsOn (·.creditAmount) entries a := by
  have hdebits : line.debits.units.natAbs ≤ grossUnits (entries.map (·.debitAmount)) := by
    rw [h.debits]
    exact Nat.le_trans Money.natAbs_totalUnits_le (grossOn_le _ entries a)
  have hcredits : line.credits.units.natAbs ≤ grossUnits (entries.map (·.creditAmount)) := by
    rw [h.credits]
    exact Nat.le_trans Money.natAbs_totalUnits_le (grossOn_le _ entries a)
  have hboth := hroom.both
  obtain ⟨net, hnet, hunits⟩ := Money.sub_exact (a := line.debits) (b := line.credits) (by omega)
  exact ⟨net, hnet, by rw [hunits, h.debits, h.credits]⟩

/-! ## The reconciliation -/

/-- The balances and the trial balance of a tenant that agree with each other and with its rides and
payments. -/
structure TotalsAgree (ctx : RequestContext) (w : Quiet) (balanceOf : AccountId → Money)
    (trial : TrialBalance) : Prop where
  balances : ∀ a ∈ w.store.accounts, a.tenant = ctx.tenant →
    Runs (Ledger.balance ctx a.id) w (.ok (balanceOf a.id)) w
  totals : Runs (Ledger.trialBalance ctx) w (.ok trial) w
  /-- What is owed. -/
  receivable : ∃ line net, trial.line? .accountsReceivable = some line ∧ line.net = .ok net ∧
    net.units = totalUnits ((w.store.accounts.filter (·.tenant = ctx.tenant)).map fun a =>
      balanceOf a.id)
  /-- What was earned. -/
  revenue : ∃ line, trial.line? .serviceRevenue = some line ∧
    line.credits.units = totalUnits
      (((w.store.tenantEntries ctx.tenant).filter (·.isBillable)).map (·.debitAmount))
  /-- What was received. -/
  cash : ∃ line, trial.line? .cash = some line ∧
    line.debits.units = totalUnits
      (((w.store.tenantEntries ctx.tenant).filter (·.isPaymentCredit)).map (·.creditAmount))

/-- A store whose balances, invoices, selections and totals agree. -/
structure Reconciles (s : MemoryStore) : Prop where
  /-- A balance is the lines of all invoices of the account and its charges on no invoice, less its
  payments. -/
  account : ∀ (ctx : RequestContext) (now : Instant) (supply : Supply), ∀ a ∈ s.accounts,
    a.tenant = ctx.tenant → ∃ balance,
      Runs (Ledger.balance ctx a.id) ⟨now, supply, s⟩ (.ok balance) ⟨now, supply, s⟩ ∧
      balance.units = totalUnits (s.lineAmounts ctx.tenant a.id) +
        totalUnits ((s.openCharges ctx.tenant a.id).map (·.debitAmount)) -
        totalUnits ((s.accountPayments ctx.tenant a.id).map (·.creditAmount))
  /-- What is selected for an invoice are the charges of its period that are on none. -/
  selected : ∀ ctx account period, s.unbilledCharges ctx account period =
    LedgerEntry.sortByTime
      ((s.openCharges ctx.tenant account).filter fun e => period.contains e.createdAt)
  tenant : ∀ (ctx : RequestContext) (now : Instant) (supply : Supply),
    ∃ balanceOf trial, TotalsAgree ctx ⟨now, supply, s⟩ balanceOf trial

/-- The balances of a tenant's accounts agree with its trial balance. -/
theorem RidesAndPayments.agree (h : s.RidesAndPayments) (hfiled : s.Filed)
    (hsize : s.entries.size ≤ ledgerCapacity) (ctx : RequestContext) (now : Instant)
    (supply : Supply) : ∃ balanceOf trial, TotalsAgree ctx ⟨now, supply, s⟩ balanceOf trial := by
  obtain ⟨journal, hjournal, -⟩ := h.journal
  have hroom : Roomy (s.tenantEntries ctx.tenant) := hjournal.roomy hsize
  have hcounted : ∀ e ∈ s.tenantEntries ctx.tenant, e.Counted :=
    fun e he => h.counted (List.mem_of_mem_filter he)
  obtain ⟨trial, htrial, hexact, -⟩ := hjournal.trialBalance hsize ctx now supply
  let balanceOf (id : AccountId) : Money :=
    (s.receivableBalance ctx id none).toOption.getD Money.zero
  have hbalance {a : Account} (ha : a ∈ s.accounts) (hown : a.tenant = ctx.tenant) :
      Runs (Ledger.balance ctx a.id) ⟨now, supply, s⟩ (.ok (balanceOf a.id)) ⟨now, supply, s⟩ ∧
        (balanceOf a.id).units =
          totalUnits ((s.accountEntries ctx.tenant a.id).map (·.receivableDelta)) := by
    obtain ⟨balance, hsum, hruns, hunits⟩ := exists_balance now supply hroom
      (hfiled.account?_eq_some_iff.2 ⟨ha, rfl, hown⟩)
    have hsame : balanceOf a.id = balance := by
      simp only [balanceOf, hsum]
      rfl
    exact hsame ▸ ⟨hruns, hunits⟩
  have howed : totalUnits ((s.accounts.filter (·.tenant = ctx.tenant)).map fun a =>
      balanceOf a.id) = totalUnits ((s.tenantEntries ctx.tenant).map (·.receivableDelta)) := by
    have hshares := h.sum_accounts hfiled ctx.tenant fun e => e.receivableDelta.units
    rw [totalUnits, totalUnits, List.map_map, List.map_map]
    refine Eq.trans ?_ hshares
    congr 1
    refine List.map_congr_left fun a ha => ?_
    obtain ⟨hmem, hown⟩ := List.mem_filter.1 ha
    rw [Function.comp_apply, (hbalance hmem (of_decide_eq_true hown)).2, totalUnits, List.map_map]
    rfl
  obtain ⟨receivable, hreceivable, hsums⟩ := exists_line hexact .accountsReceivable
  obtain ⟨net, hnet, hunits⟩ := exists_net hroom hsums
  obtain ⟨revenue, hrevenue, hearned⟩ := exists_line hexact .serviceRevenue
  obtain ⟨cash, hcash, hreceived⟩ := exists_line hexact .cash
  obtain ⟨hrides, hpayments⟩ := h.earned_and_received ctx.tenant
  exact ⟨balanceOf, trial,
    { balances := fun a ha hown => (hbalance ha hown).1
      totals := htrial
      receivable := ⟨receivable, net, hreceivable, hnet, by
        rw [hunits, howed, total_net hcounted]⟩
      revenue := ⟨revenue, hrevenue, hearned.credits.trans hrides⟩
      cash := ⟨cash, hcash, hreceived.debits.trans hpayments⟩ }⟩

/-- **The ledger and the invoices reconcile**, in every store that clients bring about who post
rides and payments alone, whatever they bill and in whatever order. -/
theorem reconciles_of_reachable (h : s.Reachable LedgerTransaction.Shaped)
    (hsize : s.entries.size ≤ ledgerCapacity) : s.Reconciles := by
  obtain ⟨hfiled, hposted⟩ := h.books reconciledKeeping ridesAndPayments_empty
  obtain ⟨-, htraced, -⟩ := h.invoicing
  obtain ⟨journal, hjournal, -⟩ := hposted.journal
  refine
    { account := fun ctx now supply a ha hown => ?_
      selected := fun ctx account period => htraced.unbilledCharges_eq hfiled period
      tenant := hposted.agree hfiled hsize }
  obtain ⟨balance, -, hruns, hunits⟩ := exists_balance now supply
    (hjournal.roomy hsize) (hfiled.account?_eq_some_iff.2 ⟨ha, rfl, hown⟩)
  exact ⟨balance, hruns, hunits.trans (hposted.owed hfiled htraced)⟩

/-! ## Two accounts -/

/-- The account that is opened after the first account had its ride. -/
def secondAccount : AccountId := ⟨Supply.start.ordered 5⟩

/-- Two accounts: the first has a billed ride, an open one and a payment, the other one a ride. -/
def reconciledCalls : List Operation :=
  let ride (account : AccountId) (name : String) (amount : Money) : Operation :=
    .recordRideCharge Sample.operator
      { account := account, ride := name, amount := amount, description := none }
  firstCalls ++
    [.createAccount Sample.operator
      { name := "Best Couriers", accountType := .organization, frequency := .monthly },
     .generateInvoice Sample.operator firstAccount Sample.firstWeekOfMarch .default,
     ride firstAccount "ride-2" Sample.shortRide, ride secondAccount "ride-3" Sample.longRide,
     .recordPayment Sample.operator
      { account := firstAccount, payment := "pay-1", amount := Sample.partialPayment
        description := none }]

/-- The first account owes 25.00 that are billed and 12.50 that are not, less 10.00. -/
theorem reconciles_twoAccounts :
    (storeAfter reconciledCalls).Reachable LedgerTransaction.Shaped ∧
    (storeAfter reconciledCalls).entries.size = 8 ∧
    (storeAfter reconciledCalls).accounts.map (·.id) = [firstAccount, secondAccount] ∧
    totalUnits ((storeAfter reconciledCalls).lineAmounts Sample.tenant firstAccount) = 250000 ∧
    totalUnits (((storeAfter reconciledCalls).openCharges Sample.tenant firstAccount).map
      (·.debitAmount)) = 125000 ∧
    totalUnits (((storeAfter reconciledCalls).accountPayments Sample.tenant firstAccount).map
      (·.creditAmount)) = 100000 ∧
    (storeAfter reconciledCalls).Reconciles := by
  have hreachable : (storeAfter reconciledCalls).Reachable LedgerTransaction.Shaped :=
    reachable_storeAfter (by simp [reconciledCalls, firstCalls, Operation.Posts])
  have hsize : (storeAfter reconciledCalls).entries.size = 8 := by decide +kernel
  have hroom : (storeAfter reconciledCalls).entries.size ≤ ledgerCapacity := by
    rw [hsize]
    decide
  exact ⟨hreachable, hsize, by decide +kernel, by decide +kernel, by decide +kernel,
    by decide +kernel, reconciles_of_reachable hreachable hroom⟩

/-- The state after these calls, with identifiers that are all new. -/
def reconciled : Quiet := ⟨Sample.epoch, Supply.start.advance 100, storeAfter reconciledCalls⟩

theorem reachable_reconciled : reconciled.store.Reachable LedgerTransaction.Built :=
  reachable_storeAfter (by simp [reconciledCalls, firstCalls, Operation.Posts])

end MemoryStore

end RideLedger
