import RideLedger.Proofs.Appending
import RideLedger.Proofs.TenantView
import RideLedger.Proofs.TrialBalance

/-!
# Isolation — no tenant can tell what the others do

Two stores that hold the same of a tenant answer the tenant's requests in the same way and hold the
same of the tenant afterwards, whatever else is in them. So nothing that another tenant has in the
store can be told from an answer, with one exception: an identifier of another tenant's account,
entry or invoice cannot be taken once more, and a request that brings one is assumed away here
(`StoreRequest.FreeIn`).

The order in which a store came by its items does not show in an answer either. Only the sums of
entries are formed in that order. They come to the same value as long as they have room, and where
they have none, one order can give a sum and another a fault.
-/

namespace RideLedger

open Money (totalUnits grossUnits)

/-! ## The same outcome -/

/-- Two computations end in the same error, or in results that are related. -/
inductive Agree {ε α : Type} (same : α → α → Prop) : Except ε α → Except ε α → Prop
  | ok {a b : α} (related : same a b) : Agree same (.ok a) (.ok b)
  | error (e : ε) : Agree same (.error e) (.error e)

namespace Agree

variable {ε α β : Type} {same same' : α → α → Prop} {x y : Except ε α}

theorem refl (hsame : ∀ a, same a a) (x : Except ε α) : Agree same x x := by
  cases x with
  | ok a => exact .ok (hsame a)
  | error e => exact .error e

theorem of_eq (h : x = y) : Agree Eq x y := by
  subst h
  exact refl (fun _ => rfl) x

theorem mono (h : Agree same x y) (hweaker : ∀ a b, same a b → same' a b) : Agree same' x y := by
  cases h with
  | ok related => exact .ok (hweaker _ _ related)
  | error e => exact .error e

/-- Computations that agree go on to agree. -/
theorem bind {same'' : β → β → Prop} {f g : α → Except ε β} (h : Agree same x y)
    (hnext : ∀ a b, same a b → Agree same'' (f a) (g b)) :
    Agree same'' (x >>= f) (y >>= g) := by
  cases h with
  | ok related => exact hnext _ _ related
  | error e => exact .error e

end Agree

/-- Totals of one ledger account that are the same in value. -/
structure AccountTotals.SameValue (t t' : AccountTotals) : Prop where
  account : t.account = t'.account
  debits : t.debits.sameValue t'.debits = true
  credits : t.credits.sameValue t'.credits = true

/-- Two views of the same items, in the same order where order counts. The order of events always
does. -/
structure TenantView.Alike (ordered : Bool) (v w : TenantView) : Prop where
  accounts : SameItems ordered v.accounts w.accounts
  entries : SameItems ordered v.entries w.entries
  keys : SameItems ordered v.keys w.keys
  invoices : SameItems ordered v.invoices w.invoices
  billed : SameItems ordered v.billed w.billed
  sequences : SameItems ordered v.sequences w.sequences
  outbox : v.outbox = w.outbox

theorem TenantView.alike_iff_eq {v w : TenantView} : v.Alike true w ↔ v = w := by
  constructor
  · rintro ⟨haccounts, hentries, hkeys, hinvoices, hbilled, hsequences, houtbox⟩
    exact TenantView.ext (haccounts.order rfl) (hentries.order rfl) (hkeys.order rfl)
      (hinvoices.order rfl) (hbilled.order rfl) (hsequences.order rfl) houtbox
  · rintro rfl
    exact ⟨.refl _, .refl _, .refl _, .refl _, .refl _, .refl _, rfl⟩

namespace StoreRequest

/-- No identifier that the request brings into the store is held by another tenant. -/
def FreeIn (s : MemoryStore) : StoreRequest → Prop
  | insertAccount ctx a => ∀ b ∈ s.accounts, b.id = a.id → b.tenant = ctx.tenant
  | appendTransaction ctx t _ =>
    ∀ e ∈ s.entries.values, e.id = t.debit.id ∨ e.id = t.credit.id → e.tenant = ctx.tenant
  | insertInvoice ctx d _ => ∀ i ∈ s.invoices.values, i.id = d.id → i.tenant = ctx.tenant
  | _ => True

/-- The requests that are answered by a sum of entries. -/
def AddsUp : StoreRequest → Prop
  | receivableBalance .. | ledgerTotals .. => True
  | _ => False

/-- What answers a request by a sum: the sum of the tenant's entries, in the order in which they
come. -/
def SumOf : (request : StoreRequest) → List LedgerEntry → Except RangeFault request.Reply → Prop
  | receivableBalance _ account before, entries => fun sum =>
    sum = Money.sum (((entries.filter (·.account = account)).filter fun e =>
      before.all (e.createdAt < ·)).map (·.receivableDelta))
  | ledgerTotals _, entries => fun sum => sum = AccountTotals.ofEntries entries
  | _, _ => fun _ => False

/-- The same reply: in value, where it is a sum of entries. -/
def SameReply : (request : StoreRequest) → request.Reply → request.Reply → Prop
  | receivableBalance .. => fun balance balance' => balance.sameValue balance' = true
  | ledgerTotals .. => List.Forall₂ AccountTotals.SameValue
  | _ => Eq

end StoreRequest

/-! ## Sums in another order -/

theorem StoreRequest.sameReply_refl (request : StoreRequest) (reply : request.Reply) :
    request.SameReply reply reply := by
  cases request with
  | receivableBalance ctx account before => exact Money.sameValue_iff.2 rfl
  | ledgerTotals ctx =>
    refine List.forall₂_same.2 fun t _ => ?_
    exact ⟨rfl, Money.sameValue_iff.2 rfl, Money.sameValue_iff.2 rfl⟩
  | _ => rfl

section Sums

variable {entries entries' : List LedgerEntry}

/-- What an entry adds to a balance is no larger than its two sides together. -/
theorem LedgerEntry.natAbs_receivableDelta_le (e : LedgerEntry) :
    e.receivableDelta.units.natAbs ≤
      e.debitAmount.units.natAbs + e.creditAmount.units.natAbs := by
  unfold receivableDelta
  split
  · simp
  · cases e.side with
    | debit => exact Nat.le_add_right ..
    | credit =>
      simp only [Money.units_neg]
      omega

/-- Nor do all entries together add more. -/
theorem grossUnits_receivableDelta_le (entries : List LedgerEntry) :
    grossUnits (entries.map (·.receivableDelta)) ≤
      grossUnits (entries.map (·.debitAmount)) + grossUnits (entries.map (·.creditAmount)) := by
  induction entries with
  | nil => exact Nat.le_refl 0
  | cons e rest ih =>
    have hfirst := e.natAbs_receivableDelta_le
    simp only [List.map_cons, Money.grossUnits_cons]
    omega

/-- Some of the entries have as much room. -/
theorem Roomy.of_sublist (h : Roomy entries) (hsome : entries'.Sublist entries) :
    Roomy entries' where
  both := by
    have hdebits := Money.grossUnits_le_of_sublist (hsome.map (·.debitAmount))
    have hcredits := Money.grossUnits_le_of_sublist (hsome.map (·.creditAmount))
    have hboth := h.both
    omega

/-- A balance of entries with room is exact. -/
theorem Roomy.receivable (h : Roomy entries) :
    ∃ balance, Money.sum (entries.map (·.receivableDelta)) = .ok balance ∧
      balance.units = totalUnits (entries.map (·.receivableDelta)) :=
  Money.sum_exact (Nat.lt_of_le_of_lt (grossUnits_receivableDelta_le entries) h.both)

/-- Exact totals of the same entries have the same values. -/
theorem AccountTotals.sameValue_of_sums {accounts : List LedgerAccount}
    {totals totals' : List AccountTotals} (hperm : entries.Perm entries')
    (h : List.Forall₂ (Sums entries) accounts totals)
    (h' : List.Forall₂ (Sums entries') accounts totals') :
    List.Forall₂ SameValue totals totals' := by
  induction h generalizing totals' with
  | nil =>
    cases h'
    exact .nil
  | cons ht _ ih =>
    obtain _ | ⟨ht', hrest'⟩ := h'
    refine .cons ⟨ht.account.trans ht'.account.symm, ?_, ?_⟩ (ih hrest')
    · rw [Money.sameValue_iff, ht.debits, ht'.debits]
      exact Money.totalUnits_perm ((hperm.filter _).map _)
    · rw [Money.sameValue_iff, ht.credits, ht'.credits]
      exact Money.totalUnits_perm ((hperm.filter _).map _)

end Sums

namespace MemoryStore

variable {cancelled ordered : Bool} {request : StoreRequest} {ctx : RequestContext}
  {t : LedgerTransaction} {d : InvoiceDraft} {i : Invoice} {event : EventId}
  {tenant : TenantId} {s s₁ s₂ : MemoryStore}

/-! ## What the view shows -/

/-- The tenant's account with an identifier shows. -/
theorem Proper.account?_eq (hs : s.Proper) (id : AccountId) :
    s.account? tenant id = (s.view tenant).accounts.find? (·.id = id) :=
  filter_find?_key hs.accounts_nodup _

/-- So does the tenant's entry with an identifier. -/
theorem Proper.entry?_eq (hs : s.Proper) (id : EntryId) :
    (s.entries.get? id).filter (·.tenant = tenant) =
      (s.view tenant).entries.find? (·.id = id) :=
  WriteOnce.filter_get? hs.entries_nodup hs.entries_own _

/-- And the tenant's invoice. -/
theorem Proper.invoice?_eq (hs : s.Proper) (id : InvoiceId) :
    (s.invoices.get? id).filter (·.tenant = tenant) =
      (s.view tenant).invoices.find? (·.id = id) :=
  WriteOnce.filter_get? hs.invoices_nodup hs.invoices_own _

/-- No two accounts in a view have one identifier. -/
theorem Proper.view_accounts_nodup (hs : s.Proper) :
    ((s.view tenant).accounts.map (·.id)).Nodup :=
  nodup_filter_key hs.accounts_nodup _

/-- Nor have two entries. -/
theorem Proper.view_entries_nodup (hs : s.Proper) : ((s.view tenant).entries.map (·.id)).Nodup :=
  nodup_filter_key hs.ids_nodup _

/-- Nor have two invoices. -/
theorem Proper.view_invoices_nodup (hs : s.Proper) :
    ((s.view tenant).invoices.map (·.id)).Nodup := by
  refine nodup_filter_key ?_ _
  rw [WriteOnce.values_map_own hs.invoices_own]
  exact hs.invoices_nodup

/-- And no two invoices in a view have one number. -/
theorem Proper.view_numbers_nodup (hs : s.Proper) :
    ((s.view tenant).invoices.map (·.number)).Nodup := by
  have hnodup : ((s.view tenant).invoices.map fun i => (i.tenant, i.number)).Nodup :=
    nodup_filter_key hs.numbers_nodup _
  have hpairs : ((s.view tenant).invoices.map fun i => (i.tenant, i.number)) =
      ((s.view tenant).invoices.map (·.number)).map fun n => (tenant, n) := by
    rw [List.map_map]
    refine List.map_congr_left fun i hi => ?_
    rw [of_decide_eq_true (List.mem_filter.1 hi).2]
    rfl
  rw [hpairs] at hnodup
  exact hnodup.of_map

/-! ## Stores that are the same for a tenant -/

/-- Two stores that hold the same of a tenant. -/
structure SameFor (ordered : Bool) (tenant : TenantId) (s₁ s₂ : MemoryStore) : Prop where
  left : s₁.Proper
  right : s₂.Proper
  view : (s₁.view tenant).Alike ordered (s₂.view tenant)

/-- Two answers with the stores after them: answers of the same kind, and stores that hold the same
of a tenant. -/
def SameOutcome {α : Type} (ordered : Bool) (tenant : TenantId) (same : α → α → Prop)
    (r₁ r₂ : α × MemoryStore) : Prop :=
  same r₁.1 r₂.1 ∧ (r₁.2.view tenant).Alike ordered (r₂.2.view tenant)

namespace SameFor

section Reads

variable (h : SameFor ordered tenant s₁ s₂)
include h

theorem account?_eq (id : AccountId) : s₁.account? tenant id = s₂.account? tenant id := by
  rw [h.left.account?_eq, h.right.account?_eq]
  exact h.view.accounts.find?_eq h.left.view_accounts_nodup id

theorem entry?_eq (id : EntryId) :
    (s₁.entries.get? id).filter (·.tenant = tenant) =
      (s₂.entries.get? id).filter (·.tenant = tenant) := by
  rw [h.left.entry?_eq, h.right.entry?_eq]
  exact h.view.entries.find?_eq h.left.view_entries_nodup id

theorem invoice?_eq (id : InvoiceId) :
    (s₁.invoices.get? id).filter (·.tenant = tenant) =
      (s₂.invoices.get? id).filter (·.tenant = tenant) := by
  rw [h.left.invoice?_eq, h.right.invoice?_eq]
  exact h.view.invoices.find?_eq h.left.view_invoices_nodup id

theorem mem_keys_iff (key : TransactionKey) :
    (tenant, key) ∈ s₁.keys ↔ (tenant, key) ∈ s₂.keys := by
  have hmem : (tenant, key) ∈ (s₁.view tenant).keys ↔ (tenant, key) ∈ (s₂.view tenant).keys :=
    h.view.keys.mem_iff
  simpa [MemoryStore.view] using hmem

theorem billed_eq (e : EntryId) :
    s₁.billed.contains (tenant, e) = s₂.billed.contains (tenant, e) := by
  have hshown (s : MemoryStore) : s.billed.contains (tenant, e) = true ↔
      (tenant, e) ∈ (s.view tenant).billed.map (·.1) := by
    simp [WriteOnce.contains_iff, WriteOnce.keys, MemoryStore.view]
  rw [Bool.eq_iff_iff, hshown, hshown]
  exact (h.view.billed.map _).mem_iff

theorem lookup_eq (month : String) :
    s₁.sequences.lookup (tenant, month) = s₂.sequences.lookup (tenant, month) := by
  have hnodup : ((s₁.view tenant).sequences.map (·.1)).Nodup :=
    nodup_filter_key h.left.sequences_nodup _
  have hshown (s : MemoryStore) : s.sequences.lookup (tenant, month) =
      ((s.view tenant).sequences.find? fun item => item.1 = (tenant, month)).map (·.2) := by
    rw [← lookup_eq_find?]
    exact (lookup_filter month).symm
  rw [hshown, hshown, h.view.sequences.find?_eq hnodup]

/-- An identifier that no other tenant's entry has is taken in both stores or in neither. -/
theorem held_entry_eq {id : EntryId}
    (hfree₁ : ∀ e ∈ s₁.entries.values, e.id = id → e.tenant = tenant)
    (hfree₂ : ∀ e ∈ s₂.entries.values, e.id = id → e.tenant = tenant) :
    s₁.entries.contains id = s₂.entries.contains id := by
  rw [Bool.eq_iff_iff, WriteOnce.contains_iff_filter h.left.entries_own hfree₁,
    WriteOnce.contains_iff_filter h.right.entries_own hfree₂]
  exact (h.view.entries.map _).mem_iff

/-- And so is one that no other tenant's invoice has. -/
theorem held_invoice_eq {id : InvoiceId}
    (hfree₁ : ∀ i ∈ s₁.invoices.values, i.id = id → i.tenant = tenant)
    (hfree₂ : ∀ i ∈ s₂.invoices.values, i.id = id → i.tenant = tenant) :
    s₁.invoices.contains id = s₂.invoices.contains id := by
  rw [Bool.eq_iff_iff, WriteOnce.contains_iff_filter h.left.invoices_own hfree₁,
    WriteOnce.contains_iff_filter h.right.invoices_own hfree₂]
  exact (h.view.invoices.map _).mem_iff

/-- The same entries of an account. -/
theorem accountEntries (account : AccountId) :
    SameItems ordered (s₁.accountEntries tenant account) (s₂.accountEntries tenant account) :=
  h.view.entries.filter _

/-- Some of the entries of an account, by time, are the same list. -/
theorem sortByTime_eq (account : AccountId) (p : LedgerEntry → Bool) :
    LedgerEntry.sortByTime ((s₁.accountEntries tenant account).filter p) =
      LedgerEntry.sortByTime ((s₂.accountEntries tenant account).filter p) := by
  refine ((h.accountEntries account).filter p).mergeSort_eq ordersBy_timeLe ?_
  exact nodup_filter_key (nodup_filter_key h.left.view_entries_nodup _) p

end Reads

/-! ## Refusals -/

section Refusals

variable (h : SameFor ordered ctx.tenant s₁ s₂)
include h

/-- **A transaction is refused for the same reason.** -/
theorem appendFault?_eq (hfree₁ : (StoreRequest.appendTransaction ctx t event).FreeIn s₁)
    (hfree₂ : (StoreRequest.appendTransaction ctx t event).FreeIn s₂) :
    s₁.appendFault? cancelled ctx t = s₂.appendFault? cancelled ctx t := by
  have hdebit : s₁.entries.contains t.debit.id = s₂.entries.contains t.debit.id :=
    h.held_entry_eq (fun e he hid => hfree₁ e he (.inl hid)) fun e he hid => hfree₂ e he (.inl hid)
  have hcredit : s₁.entries.contains t.credit.id = s₂.entries.contains t.credit.id :=
    h.held_entry_eq (fun e he hid => hfree₁ e he (.inr hid)) fun e he hid => hfree₂ e he (.inr hid)
  have hkey : s₁.keys.contains (ctx.tenant, t.key) = s₂.keys.contains (ctx.tenant, t.key) := by
    rw [Bool.eq_iff_iff, List.contains_iff_mem, List.contains_iff_mem]
    exact h.mem_keys_iff t.key
  have hheld : (t.entries.find? fun e => s₁.entries.contains e.id) =
      t.entries.find? fun e => s₂.entries.contains e.id := by
    simp only [LedgerTransaction.entries, List.find?_cons, List.find?_nil, hdebit, hcredit]
  rw [appendFault?, appendFault?, h.account?_eq, hkey, hheld]

/-- **A draft is refused for the same reason.** -/
theorem draftFault?_eq : s₁.draftFault? ctx d = s₂.draftFault? ctx d := by
  have hbilling (e : EntryId) : s₁.billingFault? ctx.tenant d.account e =
      s₂.billingFault? ctx.tenant d.account e := by
    have hsplit (s : MemoryStore) : ((s.entries.get? e).any fun charge =>
        charge.tenant = ctx.tenant && charge.account = d.account) =
          ((s.entries.get? e).filter (·.tenant = ctx.tenant)).any (·.account = d.account) := by
      cases s.entries.get? e with
      | none => rfl
      | some charge => by_cases htenant : charge.tenant = ctx.tenant <;> simp [htenant]
    rw [billingFault?, billingFault?, hsplit, hsplit, h.entry?_eq, h.billed_eq]
  rw [draftFault?, draftFault?, funext hbilling]

theorem counter_eq (issueDate : Date) : s₁.counter ctx issueDate = s₂.counter ctx issueDate := by
  rw [counter, counter, h.lookup_eq]

/-- **A numbered invoice is refused for the same reason.** -/
theorem invoiceFault?_eq (hfree₁ : ∀ j ∈ s₁.invoices.values, j.id = i.id → j.tenant = ctx.tenant)
    (hfree₂ : ∀ j ∈ s₂.invoices.values, j.id = i.id → j.tenant = ctx.tenant) :
    s₁.invoiceFault? cancelled ctx i = s₂.invoiceFault? cancelled ctx i := by
  have hnumber : (s₁.invoices.values.any fun j => j.tenant = ctx.tenant && j.number = i.number) =
      s₂.invoices.values.any fun j => j.tenant = ctx.tenant && j.number = i.number := by
    rw [← List.any_filter, ← List.any_filter]
    exact h.view.invoices.any_eq _
  rw [invoiceFault?, invoiceFault?, hnumber, h.held_invoice_eq hfree₁ hfree₂]

end Refusals

/-! ## Writes -/

section Writes

variable (h : SameFor ordered ctx.tenant s₁ s₂)
include h

theorem insertAccount {a : Account} (hfree₁ : (StoreRequest.insertAccount ctx a).FreeIn s₁)
    (hfree₂ : (StoreRequest.insertAccount ctx a).FreeIn s₂) :
    SameOutcome ordered ctx.tenant Eq (s₁.insertAccount cancelled ctx a)
      (s₂.insertAccount cancelled ctx a) := by
  have hname : (s₁.accounts.any fun b => b.tenant = ctx.tenant && b.name = a.name) =
      s₂.accounts.any fun b => b.tenant = ctx.tenant && b.name = a.name := by
    rw [← List.any_filter, ← List.any_filter]
    exact h.view.accounts.any_eq _
  -- an identifier is taken whoever holds it, but here none but the tenant can
  have hshown {s : MemoryStore} (hfree : (StoreRequest.insertAccount ctx a).FreeIn s) :
      s.accounts.any (·.id = a.id) = (s.view ctx.tenant).accounts.any (·.id = a.id) := by
    rw [MemoryStore.view, List.any_filter, Bool.eq_iff_iff, List.any_eq_true, List.any_eq_true]
    simp only [Bool.and_eq_true, decide_eq_true_eq]
    constructor
    · rintro ⟨b, hb, hid⟩
      exact ⟨b, hb, hfree b hb hid, hid⟩
    · rintro ⟨b, hb, -, hid⟩
      exact ⟨b, hb, hid⟩
  have hid : s₁.accounts.any (·.id = a.id) = s₂.accounts.any (·.id = a.id) := by
    rw [hshown hfree₁, hshown hfree₂]
    exact h.view.accounts.any_eq _
  unfold MemoryStore.insertAccount
  rw [hname, hid]
  split
  · exact ⟨rfl, h.view⟩
  next htenant =>
  split
  · exact ⟨rfl, h.view⟩
  split
  · exact ⟨rfl, h.view⟩
  split
  · exact ⟨rfl, h.view⟩
  · rw [not_not] at htenant
    refine ⟨rfl, ?_⟩
    rw [view_opened htenant, view_opened htenant]
    exact { h.view with accounts := h.view.accounts.append [a] }

theorem updateAccount {a : Account} :
    SameOutcome ordered ctx.tenant Eq (s₁.updateAccount cancelled ctx a)
      (s₂.updateAccount cancelled ctx a) := by
  unfold MemoryStore.updateAccount
  rw [h.account?_eq]
  split
  · exact ⟨rfl, h.view⟩
  next htenant =>
  split
  · exact ⟨rfl, h.view⟩
  split
  · exact ⟨rfl, h.view⟩
  · next old hfound =>
    rw [← not_not.1 htenant] at hfound
    have hfound₁ : s₁.account? a.tenant a.id = some old := by
      rw [not_not.1 htenant, h.account?_eq, ← not_not.1 htenant]
      exact hfound
    refine ⟨rfl, ?_⟩
    rw [view_updated h.left.toFiled hfound₁, view_updated h.right.toFiled hfound]
    exact { h.view with accounts := h.view.accounts.map _ }

theorem appendTransaction (ht : t.Matched)
    (hfree₁ : (StoreRequest.appendTransaction ctx t event).FreeIn s₁)
    (hfree₂ : (StoreRequest.appendTransaction ctx t event).FreeIn s₂) :
    SameOutcome ordered ctx.tenant Eq (s₁.appendTransaction cancelled ctx t event)
      (s₂.appendTransaction cancelled ctx t event) := by
  rw [appendTransaction_eq, appendTransaction_eq, h.appendFault?_eq hfree₁ hfree₂]
  cases hfault : s₂.appendFault? cancelled ctx t with
  | some fault => exact ⟨rfl, h.view⟩
  | none =>
    have hdebit : t.debit.tenant = ctx.tenant := (appendFault?_eq_none_iff.1 hfault).tenant
    have hcredit : t.credit.tenant = ctx.tenant := ht.tenant ▸ hdebit
    by_cases hsame : t.debit.id = t.credit.id
    · simp only [hsame, ↓reduceIte]
      -- the fault shows the name of the map, which is the same in every store
      refine ⟨by rw [h.left.entity, h.right.entity], ?_⟩
      rw [view_halfPosted hdebit, view_halfPosted hdebit]
      exact { h.view with entries := h.view.entries.append [t.debit] }
    · simp only [hsame, ↓reduceIte]
      refine ⟨rfl, ?_⟩
      rw [view_posted hdebit hcredit, view_posted hdebit hcredit]
      exact { h.view with
        entries := h.view.entries.append _
        keys := h.view.keys.append _
        outbox := by rw [h.view.outbox] }

theorem insertInvoice (hd : d.entryIds.Nodup)
    (hfree₁ : (StoreRequest.insertInvoice ctx d event).FreeIn s₁)
    (hfree₂ : (StoreRequest.insertInvoice ctx d event).FreeIn s₂) :
    Agree (SameOutcome ordered ctx.tenant Eq) (s₁.insertInvoice cancelled ctx d event)
      (s₂.insertInvoice cancelled ctx d event) := by
  rw [insertInvoice_of_nodup hd, insertInvoice_of_nodup hd, h.draftFault?_eq]
  cases hdraft : s₂.draftFault? ctx d with
  | some fault => exact .ok ⟨rfl, h.view⟩
  | none =>
    -- the number goes by the tenant's own counter, so the invoice is the same
    have hcounter := h.counter_eq d.issueDate
    have hnumber : s₁.numbered ctx d = s₂.numbered ctx d := by rw [numbered, numbered, hcounter]
    rw [hnumber, nextSequence, nextSequence, hcounter]
    cases hnumbered : s₂.numbered ctx d with
    | error fault => exact .error fault
    | ok i =>
      have hof := numbers_of_numbered hnumbered
      have hown : i.tenant = ctx.tenant := tenant_of_numbered hdraft hnumbered
      have hfault : s₁.invoiceFault? cancelled ctx i = s₂.invoiceFault? cancelled ctx i :=
        h.invoiceFault?_eq (hof.id ▸ hfree₁) (hof.id ▸ hfree₂)
      simp only [Except.map, hfault]
      cases s₂.invoiceFault? cancelled ctx i with
      | some fault => exact .ok ⟨rfl, h.view⟩
      | none =>
        refine .ok ⟨rfl, ?_⟩
        rw [view_invoiced hown, view_invoiced hown]
        have hsequences : ((s₁.view ctx.tenant).sequences.map (·.1)).Nodup :=
          nodup_filter_key h.left.sequences_nodup _
        exact { h.view with
          invoices := h.view.invoices.append _
          billed := h.view.billed.append _
          sequences := sameItems_setSequence h.view.sequences hsequences
          outbox := by rw [h.view.outbox] }

theorem markDispatched {id : EventId} {at_ : Instant} :
    SameOutcome ordered ctx.tenant Eq (s₁.markDispatched ctx id at_)
      (s₂.markDispatched ctx id at_) := by
  have hstamp := congrArg (stampEvent ctx.tenant id at_) h.view.outbox
  simp only [MemoryStore.view, stampEvent_filter] at hstamp
  unfold MemoryStore.markDispatched
  cases hfirst : stampEvent ctx.tenant id at_ s₁.outbox with
  | none =>
    rw [hfirst, Option.map_none] at hstamp
    rw [Option.map_eq_none_iff.1 hstamp.symm]
    exact ⟨rfl, h.view⟩
  | some after =>
    rw [hfirst, Option.map_some] at hstamp
    obtain ⟨after', hsecond, hsame⟩ := Option.map_eq_some_iff.1 hstamp.symm
    rw [hsecond]
    exact ⟨rfl, { h.view with outbox := hsame.symm }⟩

end Writes

/-! ## Answers -/

section Answers

variable (h : SameFor ordered ctx.tenant s₁ s₂)
include h

theorem listAccounts_eq (page : PageRequest) :
    s₁.listAccounts ctx page = s₂.listAccounts ctx page :=
  congrArg (Page.ofAll · page)
    (h.view.accounts.mergeSort_eq ordersBy_nameLe h.left.view_accounts_nodup)

theorem accountsWithFrequency_eq (f : InvoiceFrequency) :
    s₁.accountsWithFrequency ctx f = s₂.accountsWithFrequency ctx f := by
  rw [accountsWithFrequency, accountsWithFrequency, filter_and, filter_and]
  exact (h.view.accounts.filter _).mergeSort_eq (.compare_key Account.id)
    (nodup_filter_key h.left.view_accounts_nodup _)

theorem unbilledCharges_eq (account : AccountId) (period : BillingPeriod) :
    s₁.unbilledCharges ctx account period = s₂.unbilledCharges ctx account period := by
  unfold unbilledCharges
  simp only [h.billed_eq]
  exact h.sortByTime_eq account _

theorem findInvoiceByNumber_eq (number : InvoiceNumber) :
    s₁.findInvoiceByNumber ctx number = s₂.findInvoiceByNumber ctx number := by
  have hshown (s : MemoryStore) : s.findInvoiceByNumber ctx number =
      (s.view ctx.tenant).invoices.find? (·.number = number) := by
    simp [findInvoiceByNumber, MemoryStore.view, List.find?_filter]
  rw [hshown, hshown]
  exact h.view.invoices.find?_eq h.left.view_numbers_nodup number

theorem listInvoices_eq (account : AccountId) (page : PageRequest) :
    s₁.listInvoices ctx account page = s₂.listInvoices ctx account page := by
  rw [listInvoices, listInvoices, filter_and, filter_and]
  exact congrArg (Page.ofAll · page) ((h.view.invoices.filter _).mergeSort_eq ordersBy_newestLe
    (nodup_filter_key h.left.view_numbers_nodup _))

theorem pendingEvents_eq (limit : UInt32) :
    s₁.pendingEvents ctx limit = s₂.pendingEvents ctx limit := by
  rw [pendingEvents, pendingEvents, filter_and, filter_and]
  exact congrArg (fun events => (events.filter OutboxEvent.isPending).take limit.toNat)
    h.view.outbox

/-- A balance is the same sum where the entries are in the same order. -/
theorem receivableBalance_eq (hordered : ordered = true) (account : AccountId)
    (before : Option Instant) :
    s₁.receivableBalance ctx account before = s₂.receivableBalance ctx account before := by
  rw [receivableBalance, receivableBalance, (h.accountEntries account).order hordered]

/-- **A balance has the same value in whatever order its entries come**, if there is room for
them. -/
theorem receivableBalance_sameValue (hroom : Roomy (s₁.tenantEntries ctx.tenant))
    (account : AccountId) (before : Option Instant) :
    Agree (fun x y => x.sameValue y = true) (s₁.receivableBalance ctx account before)
      (s₂.receivableBalance ctx account before) := by
  have hsame := (h.accountEntries account).filter fun e => before.all (e.createdAt < ·)
  have hroom₁ := hroom.of_sublist
    (List.filter_sublist (p := fun e => decide (e.account = account)))
  have hroom₁ := hroom₁.of_sublist
    (List.filter_sublist (p := fun e => before.all (e.createdAt < ·)))
  obtain ⟨x, hx, hxunits⟩ := hroom₁.receivable
  obtain ⟨y, hy, hyunits⟩ := (hroom₁.perm hsame.perm.symm).receivable
  have hunits : x.units = y.units :=
    hxunits.trans ((Money.totalUnits_perm (hsame.perm.map _)).trans hyunits.symm)
  unfold receivableBalance
  rw [MemoryStore.accountEntries, hx, hy]
  exact .ok (Money.sameValue_iff.2 hunits)

/-- **So have the totals of the ledger accounts.** -/
theorem ledgerTotals_sameValue (hroom : Roomy (s₁.tenantEntries ctx.tenant)) :
    Agree (List.Forall₂ AccountTotals.SameValue)
      (AccountTotals.ofEntries (s₁.tenantEntries ctx.tenant))
      (AccountTotals.ofEntries (s₂.tenantEntries ctx.tenant)) := by
  have hperm : (s₁.tenantEntries ctx.tenant).Perm (s₂.tenantEntries ctx.tenant) :=
    h.view.entries.perm
  -- both are the exact sums of the same entries
  obtain ⟨totals₁, htotals₁, hsums₁⟩ := AccountTotals.ofEntries_exact hroom
  obtain ⟨totals₂, htotals₂, hsums₂⟩ := AccountTotals.ofEntries_exact (hroom.perm hperm.symm)
  rw [htotals₁, htotals₂]
  have haccounts : ((Choice.values : List LedgerAccount).filter fun a =>
      (s₂.tenantEntries ctx.tenant).any (·.ledgerAccount = a)) =
        (Choice.values : List LedgerAccount).filter fun a =>
          (s₁.tenantEntries ctx.tenant).any (·.ledgerAccount = a) :=
    List.filter_congr fun a _ => (h.view.entries.any_eq _).symm
  rw [haccounts] at hsums₂
  exact .ok (AccountTotals.sameValue_of_sums hperm hsums₁ hsums₂)

end Answers

/-! ## All requests -/

section Requests

variable (hformed : request.Formed) (hfree₁ : request.FreeIn s₁) (hfree₂ : request.FreeIn s₂)
include hformed hfree₁ hfree₂

/-- **The tenant's requests have the same outcome**: exactly the same, unless one is answered by a
sum that was formed in another order. -/
theorem serve (h : SameFor ordered request.tenant s₁ s₂)
    (hsum : request.AddsUp → ordered = true) :
    Agree (SameOutcome ordered request.tenant Eq) (s₁.serve cancelled request)
      (s₂.serve cancelled request) := by
  cases request with
  | insertAccount ctx a => exact .ok (h.insertAccount hfree₁ hfree₂)
  | updateAccount ctx a => exact .ok h.updateAccount
  | findAccount ctx id => exact .ok ⟨congrArg Except.ok (h.account?_eq id), h.view⟩
  | listAccounts ctx page => exact .ok ⟨congrArg Except.ok (h.listAccounts_eq page), h.view⟩
  | accountsWithFrequency ctx f =>
    exact .ok ⟨congrArg Except.ok (h.accountsWithFrequency_eq f), h.view⟩
  | appendTransaction ctx t event =>
    obtain ⟨id, first, second, hnew⟩ := hformed
    exact .ok (h.appendTransaction (LedgerTransaction.new_gives hnew).2.2 hfree₁ hfree₂)
  | transactionExists ctx key =>
    exact .ok ⟨congrArg Except.ok (decide_eq_decide.2 (h.mem_keys_iff key)), h.view⟩
  | receivableBalance ctx account before =>
    have hsame : s₁.receivableBalance ctx account before =
        s₂.receivableBalance ctx account before :=
      h.receivableBalance_eq (hsum trivial) account before
    exact (Agree.of_eq hsame).bind fun x y hxy => .ok ⟨congrArg Except.ok hxy, h.view⟩
  | receivableEntries ctx account range =>
    exact .ok ⟨congrArg Except.ok (h.sortByTime_eq account _), h.view⟩
  | ledgerTotals ctx =>
    have hentries : s₁.tenantEntries ctx.tenant = s₂.tenantEntries ctx.tenant :=
      h.view.entries.order (hsum trivial)
    have hsame := congrArg AccountTotals.ofEntries hentries
    exact (Agree.of_eq hsame).bind fun x y hxy => .ok ⟨congrArg Except.ok hxy, h.view⟩
  | unbilledCharges ctx account period =>
    exact .ok ⟨congrArg Except.ok (h.unbilledCharges_eq account period), h.view⟩
  | paymentsInPeriod ctx account period =>
    exact .ok ⟨congrArg Except.ok (h.sortByTime_eq account _), h.view⟩
  | insertInvoice ctx d event =>
    obtain ⟨ids, draft, hassembled⟩ := hformed
    exact h.insertInvoice (InvoiceDraft.nodup_of_assemble hassembled) hfree₁ hfree₂
  | findInvoice ctx id => exact .ok ⟨congrArg Except.ok (h.invoice?_eq id), h.view⟩
  | findInvoiceByNumber ctx number =>
    exact .ok ⟨congrArg Except.ok (h.findInvoiceByNumber_eq number), h.view⟩
  | listInvoices ctx account page =>
    exact .ok ⟨congrArg Except.ok (h.listInvoices_eq account page), h.view⟩
  | pendingEvents ctx limit => exact .ok ⟨congrArg Except.ok (h.pendingEvents_eq limit), h.view⟩
  | markDispatched ctx id at_ => exact .ok h.markDispatched

/-- **In another order, too**, up to the value of sums, as long as these have room. -/
theorem serve_shuffled (h : SameFor false request.tenant s₁ s₂)
    (hroom : request.AddsUp → Roomy (s₁.tenantEntries request.tenant)) :
    Agree (SameOutcome false request.tenant (Agree request.SameReply))
      (s₁.serve cancelled request) (s₂.serve cancelled request) := by
  by_cases hsum : request.AddsUp
  · cases request with
    | receivableBalance ctx account before =>
      exact (h.receivableBalance_sameValue (hroom trivial) account before).bind
        fun x y hxy => .ok ⟨.ok hxy, h.view⟩
    | ledgerTotals ctx =>
      exact (h.ledgerTotals_sameValue (hroom trivial)).bind
        fun x y hxy => .ok ⟨.ok hxy, h.view⟩
    | _ => exact hsum.elim
  · have hsame : Agree (SameOutcome false request.tenant Eq) (s₁.serve cancelled request)
        (s₂.serve cancelled request) :=
      h.serve hformed hfree₁ hfree₂ fun hs => absurd hs hsum
    refine hsame.mono fun r₁ r₂ hr => ⟨?_, hr.2⟩
    rw [hr.1]
    exact .refl request.sameReply_refl r₂.1

end Requests

end SameFor

/-! ## Isolation -/

/-- Requests of one tenant are isolated from all others. -/
structure Isolated (cancelled : Bool) (request : StoreRequest) : Prop where
  /-- Whatever the request is given to write, every other tenant has what it had. -/
  others : ∀ {s s' : MemoryStore} {answer : request.Answer}, s.Proper →
    s.serve cancelled request = .ok (answer, s') →
    ∀ other, other ≠ request.tenant → s'.view other = s.view other
  /-- Stores that hold the same of the tenant give the same answer and hold the same of it
  afterwards. -/
  same : ∀ {s₁ s₂ : MemoryStore}, s₁.Proper → s₂.Proper →
    request.FreeIn s₁ → request.FreeIn s₂ →
    s₁.view request.tenant = s₂.view request.tenant →
    Agree (fun r₁ r₂ => r₁.1 = r₂.1 ∧ r₁.2.view request.tenant = r₂.2.view request.tenant)
      (s₁.serve cancelled request) (s₂.serve cancelled request)
  /-- A request that is answered by a sum is answered by that of the tenant's own entries, in the
  order in which the store has them, and leaves the store as it is. -/
  summed : request.AddsUp → ∀ s : MemoryStore, ∃ sum,
    request.SumOf (s.view request.tenant).entries sum ∧
      s.serve cancelled request = sum.map fun reply => (.ok reply, s)
  /-- So stores that came by these things in another order give the same answer, too, and hold the
  same afterwards, but that sums have the same value only if they have room. -/
  shuffled : ∀ {s₁ s₂ : MemoryStore}, s₁.Proper → s₂.Proper →
    request.FreeIn s₁ → request.FreeIn s₂ →
    (s₁.view request.tenant).Alike false (s₂.view request.tenant) →
    (request.AddsUp → Roomy (s₁.tenantEntries request.tenant)) →
    Agree (SameOutcome false request.tenant (Agree request.SameReply))
      (s₁.serve cancelled request) (s₂.serve cancelled request)

/-- What answers a request by a sum depends on the tenant's entries alone. -/
theorem serve_summed (cancelled : Bool) (hsum : request.AddsUp) (s : MemoryStore) :
    ∃ sum, request.SumOf (s.view request.tenant).entries sum ∧
      s.serve cancelled request = sum.map fun reply => (.ok reply, s) := by
  cases request with
  | receivableBalance ctx account before =>
    refine ⟨s.receivableBalance ctx account before, rfl, ?_⟩
    cases h : s.receivableBalance ctx account before <;> simp only [MemoryStore.serve, h] <;> rfl
  | ledgerTotals ctx =>
    refine ⟨AccountTotals.ofEntries (s.tenantEntries ctx.tenant), rfl, ?_⟩
    cases h : AccountTotals.ofEntries (s.tenantEntries ctx.tenant) <;>
      simp only [MemoryStore.serve, h] <;> rfl
  | _ => exact hsum.elim

/-- **Tenant isolation.** No request of a tenant changes what another one has in the store, or
depends on it, but for the identifiers that others hold. The order in which the store has the
tenant's own entries shows in sums that have no room, and nowhere else. -/
theorem serve_isolated (cancelled : Bool) (request : StoreRequest) (hformed : request.Formed) :
    Isolated cancelled request where
  others hs hserved other hother := (commit_of_serve hserved).view_eq hs.toFiled hformed hother
  same hs₁ hs₂ hfree₁ hfree₂ hview := by
    have hsame : SameFor true request.tenant _ _ := ⟨hs₁, hs₂, TenantView.alike_iff_eq.2 hview⟩
    refine (hsame.serve hformed hfree₁ hfree₂ fun _ => rfl).mono fun r₁ r₂ hr => ?_
    exact ⟨hr.1, TenantView.alike_iff_eq.1 hr.2⟩
  summed := serve_summed cancelled
  shuffled hs₁ hs₂ hfree₁ hfree₂ hview hroom :=
    SameFor.serve_shuffled hformed hfree₁ hfree₂ ⟨hs₁, hs₂, hview⟩ hroom

/-! ## Two tenants -/

/-- An account of the other tenant, under the same name. -/
def neighbour : Account :=
  { id := ⟨{ value := 8 }⟩, tenant := Sample.otherTenant, name := Sample.accountName
    accountType := .individual, status := .inactive, frequency := .monthly
    createdAt := Sample.epoch, createdBy := Sample.operator.actor
    modifiedAt := none, modifiedBy := none }

/-- The store with one account, and the other tenant's account beside it. -/
def twoAccounts : MemoryStore := { oneAccount with accounts := neighbour :: oneAccount.accounts }

theorem proper_oneAccount : oneAccount.Proper :=
  { proper_empty with accounts_nodup := by decide }

theorem proper_twoAccounts : twoAccounts.Proper :=
  { proper_empty with accounts_nodup := by decide }

/-- The other side of a ride, under an identifier of its own. -/
def earned : LedgerEntry := { storedCredit with id := ⟨{ value := 4 }⟩ }

/-- The ride. -/
def ride : LedgerTransaction := { id := ⟨{ value := 9 }⟩, debit := storedDebit, credit := earned }

/-- The store after the ride, and with its entries the other way around. -/
def ridden (backwards : Bool) : MemoryStore :=
  let entries := [(storedDebit.id, storedDebit), (earned.id, earned)]
  { oneAccount with
    entries := ⟨"LedgerEntry", if backwards then entries.reverse else entries⟩
    keys := [(Sample.tenant, ride.key)] }

theorem proper_ridden (backwards : Bool) : (ridden backwards).Proper := by
  refine { proper_oneAccount with entries_own := ?_, entries_nodup := ?_, keys_nodup := ?_ }
  · cases backwards <;> decide
  · cases backwards <;> decide
  · exact List.nodup_singleton _

/-- Its entries in one order are its entries in the other. -/
theorem alike_ridden : ((ridden true).view Sample.tenant).Alike false
    ((ridden false).view Sample.tenant) where
  accounts := .refl _
  entries := ⟨.swap storedDebit earned [], Bool.noConfusion⟩
  keys := .refl _
  invoices := .refl _
  billed := .refl _
  sequences := .refl _
  outbox := rfl

/-- The request to append the ride. -/
def appendRide : StoreRequest := .appendTransaction Sample.operator ride ⟨{ value := 3 }⟩

/-- The ride of one tenant goes through whether the other one has an account or not, and the other
one has what it had. Its totals are the same in whichever order its entries came. -/
theorem isolated_ride :
    twoAccounts.view Sample.otherTenant ≠ oneAccount.view Sample.otherTenant ∧
    (∃ after₁ after₂, oneAccount.serve false appendRide = .ok (.ok (), after₁) ∧
      twoAccounts.serve false appendRide = .ok (.ok (), after₂) ∧
      after₁.view Sample.tenant = after₂.view Sample.tenant ∧
      after₂.view Sample.otherTenant = twoAccounts.view Sample.otherTenant) ∧
    (ridden true).view Sample.tenant ≠ (ridden false).view Sample.tenant ∧
    Agree (SameOutcome false Sample.tenant (Agree (List.Forall₂ AccountTotals.SameValue)))
      ((ridden true).serve false (.ledgerTotals Sample.operator))
      ((ridden false).serve false (.ledgerTotals Sample.operator)) := by
  have hride : Isolated false appendRide :=
    serve_isolated false appendRide ⟨ride.id, storedDebit, earned, rfl⟩
  have hfree : appendRide.FreeIn oneAccount := fun e he => absurd he List.not_mem_nil
  have hsame := hride.same proper_oneAccount proper_twoAccounts hfree hfree rfl
  have hroom : Roomy ((ridden true).tenantEntries Sample.tenant) := ⟨by decide +kernel⟩
  have htotals := (serve_isolated false (.ledgerTotals Sample.operator) trivial).shuffled
    (proper_ridden true) (proper_ridden false) trivial trivial alike_ridden fun _ => hroom
  refine ⟨?_, ?_, ?_, htotals⟩
  · intro h
    exact absurd (congrArg (fun v => v.accounts.length) h) (by decide)
  · obtain ⟨after₁, h₁⟩ : ∃ after, oneAccount.serve false appendRide = .ok (.ok (), after) :=
      ⟨_, rfl⟩
    obtain ⟨after₂, h₂⟩ : ∃ after, twoAccounts.serve false appendRide = .ok (.ok (), after) :=
      ⟨_, rfl⟩
    rw [h₁, h₂] at hsame
    cases hsame with
    | ok related =>
      exact ⟨after₁, after₂, h₁, h₂, related.2, hride.others proper_twoAccounts h₂ _ (by decide)⟩
  · intro h
    exact absurd (congrArg (fun v => v.entries.map (·.id)) h) (by decide)

/-! ## Sums without room -/

/-- The largest amount there is. -/
def largest : Money := { amount := .ofNat (Decimal.mantissaBound - 1) (Nat.lt_succ_self _) }

/-- A ride of the largest amount. -/
def dearRide : LedgerEntry := { storedDebit with debitAmount := largest }

/-- Another one. -/
def secondDearRide : LedgerEntry := { dearRide with id := ⟨{ value := 13 }⟩ }

/-- A credit of the largest amount. -/
def dearCredit : LedgerEntry :=
  { dearRide with id := ⟨{ value := 14 }⟩, debitAmount := Money.zero, creditAmount := largest }

/-- A store of these three entries, with the credit at the end or between the rides. -/
def heaped (between : Bool) : MemoryStore :=
  let entries := if between then [dearRide, dearCredit, secondDearRide]
    else [dearRide, secondDearRide, dearCredit]
  { oneAccount with entries := ⟨"LedgerEntry", entries.map fun e => (e.id, e)⟩ }

theorem proper_heaped (between : Bool) : (heaped between).Proper := by
  refine { proper_oneAccount with entries_own := ?_, entries_nodup := ?_ }
  · cases between <;> decide
  · cases between <;> decide

/-- The request for the balance of their account. -/
def owed : StoreRequest := .receivableBalance Sample.operator Sample.unknownAccount none

/-- **Two stores that hold the same of a tenant, and answer it differently.** All entries are such
as storage can hold. With the credit between the rides their balance is one largest amount; with
the rides first it runs out of range on the way. -/
theorem heaped_shows_order :
    (∀ e ∈ [dearRide, secondDearRide, dearCredit], LedgerEntry.rehydrate e = .ok e) ∧
    (heaped true).Proper ∧ (heaped false).Proper ∧ owed.Formed ∧
    owed.FreeIn (heaped true) ∧ owed.FreeIn (heaped false) ∧
    ((heaped true).view owed.tenant).Alike false ((heaped false).view owed.tenant) ∧
    (heaped true).serve false owed = .ok (.ok largest, heaped true) ∧
    (heaped false).serve false owed = .error .addition := by
  refine ⟨by decide +kernel, proper_heaped true, proper_heaped false, trivial, trivial, trivial, ?_,
    rfl, rfl⟩
  exact
    { accounts := .refl _
      entries := ⟨(List.Perm.swap secondDearRide dearCredit []).cons dearRide, Bool.noConfusion⟩
      keys := .refl _, invoices := .refl _, billed := .refl _, sequences := .refl _, outbox := rfl }

end MemoryStore

end RideLedger
