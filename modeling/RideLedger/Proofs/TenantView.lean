import RideLedger.Proofs.Drafting
import RideLedger.Proofs.History
import RideLedger.Proofs.Journal
import RideLedger.Proofs.Listing

/-!
# A tenant's view — what a store holds of one tenant

The store keeps the accounts, entries and invoices of all tenants together, under their identifiers
alone. The view of a tenant is the part of each collection that is the tenant's own
(`MemoryStore.view`). A request runs for one tenant, and it writes what is that tenant's: the views
of all others are what they were (`MemoryStore.Commit.view_eq`), and what becomes of the tenant's
own view can be read off the view (`MemoryStore.view_posted` and its like).

Some facts are needed of the store, which every request keeps (`MemoryStore.Commit.proper`):
everything is filed under its own identifier, once; no two invoices of a tenant have one number; no
month has two sequences; and the map of the entries goes by its name.
-/

namespace RideLedger

/-- What a store holds of one tenant, each collection in its order. -/
@[ext] structure TenantView where
  accounts : List Account
  entries : List LedgerEntry
  keys : List (TenantId × TransactionKey)
  invoices : List Invoice
  billed : List ((TenantId × EntryId) × InvoiceId)
  sequences : List ((TenantId × String) × UInt32)
  outbox : List OutboxEvent

/-- The tenant's part of a store. -/
def MemoryStore.view (s : MemoryStore) (tenant : TenantId) : TenantView where
  accounts := s.accounts.filter (·.tenant = tenant)
  entries := s.tenantEntries tenant
  keys := s.keys.filter (·.1 = tenant)
  invoices := s.invoices.values.filter (·.tenant = tenant)
  billed := s.billed.items.filter (·.1.1 = tenant)
  sequences := s.sequences.filter (·.1.1 = tenant)
  outbox := s.outbox.filter (·.tenant = tenant)

namespace StoreRequest

/-- The context that a request runs under. -/
def ctx : StoreRequest → RequestContext
  | insertAccount ctx _ | updateAccount ctx _ | findAccount ctx _ | listAccounts ctx _
  | accountsWithFrequency ctx _ | appendTransaction ctx _ _ | transactionExists ctx _
  | receivableBalance ctx _ _ | receivableEntries ctx _ _ | ledgerTotals ctx
  | unbilledCharges ctx _ _ | paymentsInPeriod ctx _ _ | insertInvoice ctx _ _ | findInvoice ctx _
  | findInvoiceByNumber ctx _ | listInvoices ctx _ _ | pendingEvents ctx _
  | markDispatched ctx _ _ => ctx

/-- The tenant that a request runs for. -/
def tenant (request : StoreRequest) : TenantId := request.ctx.tenant

/-- A request whose transaction was put together from two entries, and whose draft was assembled:
there is no other way to either. Of accounts nothing is asked. -/
def Formed : StoreRequest → Prop
  | appendTransaction _ t _ => ∃ id first second, (LedgerTransaction.new id first second).Gives t
  | insertInvoice _ d _ => ∃ ids request, (InvoiceDraft.assemble ids request).Gives d
  | _ => True

end StoreRequest

namespace WriteOnce

variable {κ ν : Type} [DecidableEq κ] {m : WriteOnce κ ν} {key : κ} {own : ν → κ}

/-- The value under a key, if it passes, is the one with the key among those that pass. -/
theorem filter_get? (hnodup : m.keys.Nodup) (hown : ∀ item ∈ m.items, item.1 = own item.2)
    (p : ν → Bool) : (m.get? key).filter p = (m.values.filter p).find? fun v => own v = key := by
  have hvalues : (m.values.map own).Nodup := by
    rw [values_map_own hown]
    exact hnodup
  have hget : m.get? key = m.values.find? fun v => own v = key := by
    refine Option.ext fun v => ?_
    rw [get?_eq_some_iff hnodup hown, find?_key_eq_some_iff hvalues]
  rw [hget, filter_find?_key hvalues]

/-- A key that only values that pass can have is taken if one of those has it. -/
theorem contains_iff_filter {q : ν → Prop} [DecidablePred q]
    (hown : ∀ item ∈ m.items, item.1 = own item.2)
    (hfree : ∀ v ∈ m.values, own v = key → q v) :
    m.contains key = true ↔ key ∈ (m.values.filter fun v => q v).map own := by
  rw [contains_iff, ← values_map_own hown, List.mem_map, List.mem_map]
  constructor
  · rintro ⟨v, hv, hkey⟩
    exact ⟨v, List.mem_filter.2 ⟨hv, decide_eq_true (hfree v hv hkey)⟩, hkey⟩
  · rintro ⟨v, hv, hkey⟩
    exact ⟨v, List.mem_of_mem_filter hv, hkey⟩

end WriteOnce

namespace MemoryStore

variable {cancelled : Bool} {request : StoreRequest} {ctx : RequestContext} {a : Account}
  {t : LedgerTransaction} {i : Invoice} {event : EventId} {tenant other : TenantId}
  {s s' : MemoryStore}

/-! ## Sequences -/

section Sequences

variable {key : TenantId × String} {value : UInt32}
  {sequences sequences' : List ((TenantId × String) × UInt32)}

/-- Setting the sequence of a new key puts it behind the others; that of a key that is there
changes it in its place. -/
theorem keys_setSequence : (setSequence key value sequences).map (·.1) =
    if key ∈ sequences.map (·.1) then sequences.map (·.1) else sequences.map (·.1) ++ [key] := by
  induction sequences with
  | nil => rfl
  | cons first rest ih =>
    obtain ⟨k, v⟩ := first
    rw [setSequence]
    by_cases hk : k = key
    · simp [hk]
    · rw [if_neg hk, List.map_cons, ih]
      by_cases hkey : key ∈ rest.map (·.1)
      · simp [hkey]
      · simp [hkey, Ne.symm hk]

/-- Whatever its place, the sequence of a key is set beside those of the others. -/
theorem setSequence_perm_cons (hnodup : (sequences.map (·.1)).Nodup) :
    (setSequence key value sequences).Perm
      ((key, value) :: sequences.filter fun item => item.1 ≠ key) := by
  induction sequences with
  | nil => exact .refl _
  | cons first rest ih =>
    obtain ⟨k, v⟩ := first
    obtain ⟨hfirst, hrest⟩ := List.nodup_cons.1 hnodup
    rw [setSequence]
    by_cases hk : k = key
    · -- none of the later keys is this one
      have hall : ∀ item ∈ rest, decide (item.1 ≠ key) = true := fun item hitem =>
        decide_eq_true fun heq => hfirst (List.mem_map.2 ⟨item, hitem, heq.trans hk.symm⟩)
      rw [if_pos hk, hk, List.filter_cons_of_neg (by simp), List.filter_eq_self.2 hall]
    · rw [if_neg hk, List.filter_cons_of_pos (by simpa using hk)]
      exact ((ih hrest).cons (k, v)).trans (.swap ..)

/-- The same sequences are the same with one of them set. -/
theorem sameItems_setSequence {ordered : Bool} (h : SameItems ordered sequences sequences')
    (hnodup : (sequences.map (·.1)).Nodup) :
    SameItems ordered (setSequence key value sequences) (setSequence key value sequences') := by
  have hnodup' : (sequences'.map (·.1)).Nodup := (h.perm.map _).nodup_iff.1 hnodup
  refine h.made ((setSequence_perm_cons hnodup).trans ?_)
  exact ((h.perm.filter _).cons _).trans (setSequence_perm_cons hnodup').symm

/-- A tenant's sequences with one of its own set. -/
theorem filter_setSequence (hown : key.1 = tenant) :
    (setSequence key value sequences).filter (·.1.1 = tenant) =
      setSequence key value (sequences.filter (·.1.1 = tenant)) := by
  induction sequences with
  | nil => simp [setSequence, hown]
  | cons first rest ih =>
    obtain ⟨k, v⟩ := first
    rw [setSequence]
    by_cases hk : k = key
    · simp [hk, hown, setSequence]
    · rw [if_neg hk]
      by_cases htenant : k.1 = tenant
      · simp [htenant, ih, setSequence, hk]
      · simp [htenant, ih]

/-- The sequences of another tenant are what they were. -/
theorem filter_setSequence_other (hother : key.1 ≠ other) :
    (setSequence key value sequences).filter (·.1.1 = other) =
      sequences.filter (·.1.1 = other) := by
  induction sequences with
  | nil => simp [setSequence, hother]
  | cons first rest ih =>
    obtain ⟨k, v⟩ := first
    rw [setSequence]
    by_cases hk : k = key
    · simp [hk, hother]
    · rw [if_neg hk, List.filter_cons, List.filter_cons, ih]

/-- The sequences of a tenant's months are found among the tenant's. -/
theorem lookup_filter (month : String) :
    (sequences.filter (·.1.1 = tenant)).lookup (tenant, month) =
      sequences.lookup (tenant, month) := by
  induction sequences with
  | nil => rfl
  | cons first rest ih =>
    obtain ⟨k, v⟩ := first
    by_cases htenant : k.1 = tenant
    · rw [List.filter_cons_of_pos (by simpa using htenant), List.lookup_cons, List.lookup_cons, ih]
    · have hne : (tenant, month) ≠ k := fun heq => htenant (heq ▸ rfl)
      rw [List.filter_cons_of_neg (by simpa using htenant), List.lookup_cons, beq_false_of_ne hne,
        ih]

/-- The sequence of a key is the one that is filed under it. -/
theorem lookup_eq_find? :
    sequences.lookup key = (sequences.find? fun item => item.1 = key).map (·.2) := by
  induction sequences with
  | nil => rfl
  | cons first rest ih =>
    obtain ⟨k, v⟩ := first
    by_cases hk : k = key
    · simp [hk]
    · rw [List.lookup_cons, beq_false_of_ne (Ne.symm hk), ih,
        List.find?_cons_of_neg (by simpa using hk)]

end Sequences

/-! ## Stores in order -/

/-- What holds of every store, whatever is asked of it. -/
structure Proper (s : MemoryStore) : Prop extends s.Filed where
  numbers_nodup : (s.invoices.values.map fun i => (i.tenant, i.number)).Nodup
  sequences_nodup : (s.sequences.map (·.1)).Nodup
  entity : s.entries.entity = "LedgerEntry"

theorem proper_empty : empty.Proper :=
  ⟨filed_empty, List.nodup_nil, List.nodup_nil, rfl⟩

/-- **Every request leaves a store in order.** -/
theorem Commit.proper (h : Commit cancelled s request s') (hs : s.Proper) : s'.Proper := by
  have hfiled : s'.Filed := h.filed hs.toFiled
  cases h with
  | @invoiced ctx d event i hdraft hnumbered hinvoice hnodup =>
    have hown : i.tenant = ctx.tenant := tenant_of_numbered hdraft hnumbered
    have hnew := (invoiceFault?_eq_none_iff.1 hinvoice).1
    refine ⟨hfiled, ?_, ?_, hs.entity⟩
    · simp only [MemoryStore.invoiced, WriteOnce.extend_values, List.map_append, List.map_cons,
        List.map_nil]
      refine nodup_append_of_new hs.numbers_nodup (List.nodup_singleton _) ?_
      intro key hkey hmem
      obtain rfl := List.mem_singleton.1 hkey
      obtain ⟨j, hj, hsame⟩ := List.mem_map.1 hmem
      obtain ⟨htenant, hnumber⟩ := Prod.mk.inj hsame
      exact hnew j hj (htenant.trans hown) hnumber
    · simp only [MemoryStore.invoiced, keys_setSequence]
      split
      · exact hs.sequences_nodup
      · next hkey =>
        exact nodup_append_of_new hs.sequences_nodup (List.nodup_singleton _) (by simpa using hkey)
  | _ => exact ⟨hfiled, hs.numbers_nodup, hs.sequences_nodup, hs.entity⟩

end MemoryStore

/-- A step of a plan leaves a store in order. -/
theorem Plan.Step.proper {α : Type} {e : Surroundings} {p p' : Plan α} {s s' : MemoryStore}
    (taken : Plan.Step e p s p' s') (hs : s.Proper) : s'.Proper := by
  cases taken with
  | ask read served => exact (MemoryStore.commit_of_serve served).proper hs
  | _ => exact hs

/-- **And so does every run**, whatever the clients do and whatever others ask. -/
theorem System.Run.proper {ι α : Type} [DecidableEq ι] {e : ι → Surroundings}
    {others : StoreRequest → Prop} {σ σ' : System ι α} (run : System.Run e others σ σ')
    (hs : σ.store.Proper) : σ'.store.Proper := by
  refine run.keeps (P := fun σ => σ.store.Proper) (fun hs taken => ?_) hs
  cases taken with
  | client i taken => exact taken.proper hs
  | other allowed served => exact (MemoryStore.commit_of_serve served).proper hs

namespace MemoryStore

variable {cancelled : Bool} {request : StoreRequest} {ctx : RequestContext} {a : Account}
  {t : LedgerTransaction} {i : Invoice} {event : EventId} {tenant other : TenantId}
  {s s' : MemoryStore}

/-! ## The views of others -/

/-- The account under an identifier and the one that is put in its place are of one tenant. -/
theorem tenant_replaced {old b : Account} (hs : s.Filed)
    (hfound : s.account? a.tenant a.id = some old) (hb : b ∈ s.accounts) :
    (if b.id = a.id then a else b).tenant = b.tenant := by
  split
  · next hid =>
    rw [account?, Option.filter_eq_some_iff, find?_key_eq_some_iff hs.accounts_nodup] at hfound
    obtain ⟨⟨hold, hsame⟩, hown⟩ := hfound
    obtain rfl : b = old :=
      List.inj_on_of_nodup_map hs.accounts_nodup hb hold (hid.trans hsame.symm)
    exact (of_decide_eq_true hown).symm
  · rfl

/-- So replacing it leaves every account with its tenant. -/
theorem filter_replaced {old : Account} (hs : s.Filed)
    (hfound : s.account? a.tenant a.id = some old) :
    (s.accounts.map fun b => if b.id = a.id then a else b).filter (·.tenant = tenant) =
      (s.accounts.filter (·.tenant = tenant)).map fun b => if b.id = a.id then a else b := by
  rw [List.filter_map]
  congr 1
  refine List.filter_congr fun b hb => ?_
  rw [Function.comp_apply, tenant_replaced hs hfound hb]

/-- Stamping one of a tenant's events shows in the tenant's part of the outbox. -/
theorem stampEvent_filter {id : EventId} {at_ : Instant} (outbox : List OutboxEvent) :
    stampEvent tenant id at_ (outbox.filter (·.tenant = tenant)) =
      (stampEvent tenant id at_ outbox).map fun after => after.filter (·.tenant = tenant) := by
  induction outbox with
  | nil => rfl
  | cons e rest ih =>
    by_cases htenant : e.tenant = tenant
    · rw [List.filter_cons_of_pos (by simpa using htenant), stampEvent, stampEvent]
      split
      · simp [htenant]
      · rw [ih, Option.map_map, Option.map_map]
        congr 1
        funext after
        simp [htenant]
    · rw [List.filter_cons_of_neg (by simpa using htenant), ih, stampEvent,
        if_neg fun h => htenant h.2, Option.map_map]
      congr 1
      funext after
      simp [htenant]

/-- It does not show in the part of another one. -/
theorem filter_stampEvent_other {id : EventId} {at_ : Instant} {outbox after : List OutboxEvent}
    (h : stampEvent tenant id at_ outbox = some after) (hother : other ≠ tenant) :
    after.filter (·.tenant = other) = outbox.filter (·.tenant = other) := by
  induction outbox generalizing after with
  | nil => cases h
  | cons e rest ih =>
    rw [stampEvent] at h
    split at h
    · next hfirst =>
      obtain rfl := Option.some.inj h
      simp [hfirst.2, hother.symm]
    · obtain ⟨after', hafter', rfl⟩ := Option.map_eq_some_iff.1 h
      rw [List.filter_cons, List.filter_cons, ih hafter']

/-- **A request leaves every other tenant's view as it was**, whatever it is given to write. -/
theorem Commit.view_eq (h : Commit cancelled s request s') (hs : s.Filed) (hformed : request.Formed)
    (hother : other ≠ request.tenant) : s'.view other = s.view other := by
  cases h with
  | unchanged => rfl
  | @opened ctx a htenant =>
    have hne : ctx.tenant ≠ other := Ne.symm hother
    simp [view, tenantEntries, htenant, hne]
  | @updated ctx a old htenant hlive hfound =>
    have hne : ctx.tenant ≠ other := Ne.symm hother
    rw [← htenant] at hfound hne
    have hsame : ∀ b ∈ s.accounts.filter (·.tenant = other),
        (if b.id = a.id then a else b) = b := by
      intro b hb
      obtain ⟨hmem, hown⟩ := List.mem_filter.1 hb
      have hkept := tenant_replaced hs hfound hmem
      split
      · next hid =>
        rw [if_pos hid, of_decide_eq_true hown] at hkept
        exact absurd hkept hne
      · rfl
    simp only [view, tenantEntries, filter_replaced hs hfound, List.map_congr_left hsame,
      List.map_id']
  | @posted ctx t event hadmits hdistinct =>
    have hne : ctx.tenant ≠ other := Ne.symm hother
    obtain ⟨id, first, second, hnew⟩ := hformed
    have hdebit : t.debit.tenant = ctx.tenant := hadmits.tenant
    have hcredit : t.credit.tenant = ctx.tenant :=
      (LedgerTransaction.new_gives hnew).2.2.tenant ▸ hdebit
    simp [view, tenantEntries, MemoryStore.posted, OutboxEvent.ofTransaction,
      LedgerTransaction.tenant, hdebit, hcredit, hne]
  | @halfPosted ctx t event hadmits hsame =>
    have hne : ctx.tenant ≠ other := Ne.symm hother
    have hdebit : t.debit.tenant = ctx.tenant := hadmits.tenant
    simp [view, tenantEntries, MemoryStore.halfPosted, hdebit, hne]
  | @invoiced ctx d event i hdraft hnumbered hinvoice hnodup =>
    have hne : ctx.tenant ≠ other := Ne.symm hother
    have hown : i.tenant = ctx.tenant := tenant_of_numbered hdraft hnumbered
    simp [view, tenantEntries, MemoryStore.invoiced, OutboxEvent.ofInvoice, hown, hne,
      filter_setSequence_other]
  | @halfInvoiced ctx d event marked hdraft hdup hpart hmarked =>
    have hne : ctx.tenant ≠ other := Ne.symm hother
    simp [view, tenantEntries, hne]
  | stamped hfound => simp only [view, tenantEntries, filter_stampEvent_other hfound hother]

/-! ## The tenant's own view -/

/-- An opened account comes behind the others. -/
theorem view_opened (htenant : a.tenant = tenant) :
    ({ s with accounts := s.accounts ++ [a] } : MemoryStore).view tenant =
      { s.view tenant with accounts := (s.view tenant).accounts ++ [a] } := by
  simp [view, tenantEntries, htenant]

/-- An updated account takes the place of the old one. -/
theorem view_updated {old : Account} (hs : s.Filed)
    (hfound : s.account? a.tenant a.id = some old) :
    ({ s with accounts := s.accounts.map fun b => if b.id = a.id then a else b } :
        MemoryStore).view tenant =
      { s.view tenant with
        accounts := (s.view tenant).accounts.map fun b => if b.id = a.id then a else b } := by
  simp only [view, tenantEntries, filter_replaced hs hfound]

/-- A transaction comes with its two entries, its key and its event. -/
theorem view_posted (hdebit : t.debit.tenant = ctx.tenant)
    (hcredit : t.credit.tenant = ctx.tenant) :
    (s.posted ctx t event).view ctx.tenant =
      { s.view ctx.tenant with
        entries := (s.view ctx.tenant).entries ++ [t.debit, t.credit]
        keys := (s.view ctx.tenant).keys ++ [(ctx.tenant, t.key)]
        outbox := (s.view ctx.tenant).outbox ++ [.ofTransaction event t] } := by
  simp [view, tenantEntries, posted, OutboxEvent.ofTransaction, LedgerTransaction.tenant, hdebit,
    hcredit]

/-- Half a transaction comes with its debit alone. -/
theorem view_halfPosted (hdebit : t.debit.tenant = tenant) :
    (s.halfPosted t).view tenant =
      { s.view tenant with entries := (s.view tenant).entries ++ [t.debit] } := by
  simp [view, tenantEntries, halfPosted, hdebit]

/-- An invoice comes with its markers, its sequence and its event. -/
theorem view_invoiced {sequence : UInt32} (hown : i.tenant = ctx.tenant) :
    (s.invoiced ctx sequence i event).view ctx.tenant =
      { s.view ctx.tenant with
        invoices := (s.view ctx.tenant).invoices ++ [i]
        billed := (s.view ctx.tenant).billed ++
          i.lines.map fun l => ((ctx.tenant, l.entry), i.id)
        sequences := setSequence (ctx.tenant, InvoiceNumber.periodKey i.issueDate) sequence
          (s.view ctx.tenant).sequences
        outbox := (s.view ctx.tenant).outbox ++ [.ofInvoice event i] } := by
  have hmarks : (i.lines.map fun l => ((ctx.tenant, l.entry), i.id)).filter
      (fun item => decide (item.1.1 = ctx.tenant)) =
        i.lines.map fun l => ((ctx.tenant, l.entry), i.id) := by
    simp
  simp only [view, tenantEntries, invoiced, WriteOnce.extend_values, WriteOnce.extend_items,
    List.filter_append, hmarks, filter_setSequence]
  simp [OutboxEvent.ofInvoice, hown]

end MemoryStore

end RideLedger
