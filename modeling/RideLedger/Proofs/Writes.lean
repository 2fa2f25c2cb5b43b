import Mathlib.Data.List.Nodup
import RideLedger.MemoryStore
import RideLedger.Proofs.Results

/-!
# Writes — what a request does to the store

Each write of the store is here an equation: it is refused for the first reason on a list and
leaves the store as it was, or it goes through and the store afterwards is given field by field.
`Commit` collects them: it is everything that serving a request can do to the store, guards
included (`commit_of_serve`), so that an invariant of the store is a matter of its few cases.

Two writes can break off in the middle, both on a repetition within what is written: of an
identifier in a transaction, and of an entry in a draft.
-/

namespace RideLedger

/-! ## Write-once maps -/

namespace WriteOnce

variable {κ ν : Type} {m : WriteOnce κ ν} {key : κ} {value : ν} {added : List (κ × ν)}

/-- The map with further items. -/
def extend (m : WriteOnce κ ν) (added : List (κ × ν)) : WriteOnce κ ν :=
  { m with items := m.items ++ added }

/-- The keys, in the order they were written. -/
def keys (m : WriteOnce κ ν) : List κ := m.items.map (·.1)

@[simp] theorem extend_items : (m.extend added).items = m.items ++ added := rfl

@[simp] theorem extend_keys : (m.extend added).keys = m.keys ++ added.map (·.1) := by
  simp [keys]

@[simp] theorem extend_values : (m.extend added).values = m.values ++ added.map (·.2) := by
  simp [values]

@[simp] theorem extend_extend {more : List (κ × ν)} :
    (m.extend added).extend more = m.extend (added ++ more) := by
  simp [extend]

variable [DecidableEq κ]

theorem contains_iff : m.contains key = true ↔ key ∈ m.keys := by
  simp [contains, keys]

/-- A key has a value when it is there. -/
theorem get?_eq_none_iff : m.get? key = none ↔ key ∉ m.keys := by
  rw [get?, Option.map_eq_none_iff, List.find?_eq_none, keys]
  simp only [decide_eq_true_eq, List.mem_map, not_exists, not_and]

/-- The value of a key stays when the map grows. -/
theorem get?_extend_of_some (h : m.get? key = some value) :
    (m.extend added).get? key = some value := by
  rw [get?, Option.map_eq_some_iff] at h
  obtain ⟨item, hfind, hvalue⟩ := h
  rw [get?, extend_items, List.find?_append, hfind]
  exact congrArg some hvalue

theorem mem_of_get? (h : m.get? key = some value) : (key, value) ∈ m.items := by
  rw [get?, Option.map_eq_some_iff] at h
  obtain ⟨⟨k, v⟩, hfind, rfl⟩ := h
  obtain rfl : k = key := by simpa using List.find?_some hfind
  exact List.mem_of_find?_eq_some hfind

/-- Where no key is there twice, the value of a key is the one that was written under it. -/
theorem get?_of_mem (hnodup : m.keys.Nodup) (h : (key, value) ∈ m.items) :
    m.get? key = some value := by
  obtain ⟨found, hfound⟩ : ∃ v, m.get? key = some v := by
    rw [← Option.ne_none_iff_exists', ne_eq, get?_eq_none_iff, not_not]
    exact List.mem_map_of_mem h
  have hsame : (key, found) = (key, value) :=
    List.inj_on_of_nodup_map hnodup (mem_of_get? hfound) h rfl
  rw [hfound, (Prod.mk.inj hsame).2]

/-- In a map that files each value under a key of its own, a key stands for the value that has
it. -/
theorem get?_eq_some_iff {own : ν → κ} (hnodup : m.keys.Nodup)
    (hown : ∀ item ∈ m.items, item.1 = own item.2) :
    m.get? key = some value ↔ value ∈ m.values ∧ own value = key := by
  constructor
  · intro hget
    have hmem := mem_of_get? hget
    exact ⟨List.mem_map_of_mem hmem, (hown _ hmem).symm⟩
  · rintro ⟨hvalue, rfl⟩
    obtain ⟨⟨k, v⟩, hmem, rfl⟩ := List.mem_map.1 hvalue
    rw [← hown _ hmem]
    exact get?_of_mem hnodup hmem

variable [ShownKey κ]

theorem insert_of_mem (h : key ∈ m.keys) :
    m.insert key value = .error (.immutable m.entity (shownKey key)) := by
  rw [insert, if_pos (contains_iff.2 h)]

theorem insert_of_not_mem (h : key ∉ m.keys) :
    m.insert key value = .ok (m.extend [(key, value)]) := by
  rw [insert, if_neg (mt contains_iff.1 h)]
  rfl

end WriteOnce

namespace MemoryStore

variable {cancelled : Bool} {ctx : RequestContext} {t : LedgerTransaction} {event : EventId}
  {d : InvoiceDraft} {tenant : TenantId} {s s' : MemoryStore}

/-! ## Appending a transaction -/

/-- Why the store does not begin to write a transaction. -/
def appendFault? (cancelled : Bool) (ctx : RequestContext) (t : LedgerTransaction)
    (s : MemoryStore) : Option StoreFault :=
  if t.tenant ≠ ctx.tenant then some (foreign t.tenant)
  else match s.account? ctx.tenant t.account with
    | none => some (.notFound "Account" t.account.toText)
    | some account =>
      if !account.canReceive then some (.inactive "Account" account.id.toText)
      else if s.keys.contains (ctx.tenant, t.key) then
        some (.conflict ("transaction " ++ t.key.toText ++ " already recorded"))
      else match t.entries.find? fun e => s.entries.contains e.id with
        | some e => some (.immutable "LedgerEntry" e.id.toText)
        | none => if cancelled then some .cancelled else none

/-- What has to be the case for the store to begin to write a transaction. -/
structure Admits (s : MemoryStore) (cancelled : Bool) (ctx : RequestContext)
    (t : LedgerTransaction) : Prop where
  tenant : t.tenant = ctx.tenant
  account : ∃ a, s.account? ctx.tenant t.account = some a ∧ a.canReceive = true
  key : (ctx.tenant, t.key) ∉ s.keys
  debit : t.debit.id ∉ s.entries.keys
  credit : t.credit.id ∉ s.entries.keys
  live : cancelled = false

/-- The store admits a transaction when it has no reason not to. -/
theorem appendFault?_eq_none_iff :
    s.appendFault? cancelled ctx t = none ↔ s.Admits cancelled ctx t := by
  constructor
  · intro h
    -- each check that the store makes has to pass, one after another
    simp only [appendFault?] at h
    split at h
    · cases h
    next htenant =>
    split at h
    · cases h
    next account haccount =>
    split at h
    · cases h
    next hreceive =>
    split at h
    · cases h
    next hkey =>
    split at h
    · cases h
    next hfind =>
    simp only [LedgerTransaction.entries, List.find?_eq_none, List.mem_cons, List.not_mem_nil,
      or_false, forall_eq_or_imp, forall_eq, WriteOnce.contains_iff] at hfind
    exact
      { tenant := not_not.1 htenant
        account := ⟨account, haccount, by simpa using hreceive⟩
        key := mt List.contains_iff_mem.2 hkey
        debit := hfind.1, credit := hfind.2, live := by simpa using h }
  · rintro ⟨htenant, ⟨account, haccount, hreceive⟩, hkey, hdebit, hcredit, rfl⟩
    have hfind : t.entries.find? (fun e => s.entries.contains e.id) = none := by
      simp only [LedgerTransaction.entries, List.find?_eq_none, List.mem_cons, List.not_mem_nil,
        or_false, forall_eq_or_imp, forall_eq, WriteOnce.contains_iff]
      exact ⟨hdebit, hcredit⟩
    simp [appendFault?, htenant, haccount, hreceive, hkey, hfind]

/-- A conflict is only ever one of keys. -/
theorem mem_keys_of_appendFault? {text : String}
    (h : s.appendFault? cancelled ctx t = some (.conflict text)) :
    (ctx.tenant, t.key) ∈ s.keys := by
  simp only [appendFault?] at h
  split at h
  · cases h
  split at h
  · cases h
  split at h
  · cases h
  split at h
  · next hkey => exact List.contains_iff_mem.1 hkey
  split at h
  · cases h
  split at h <;> cases h

/-- The store with a transaction in it: its two entries, its key and its event. -/
def posted (ctx : RequestContext) (t : LedgerTransaction) (event : EventId) (s : MemoryStore) :
    MemoryStore :=
  { s with
    entries := s.entries.extend [(t.debit.id, t.debit), (t.credit.id, t.credit)]
    keys := s.keys ++ [(ctx.tenant, t.key)]
    outbox := s.outbox ++ [.ofTransaction event t] }

/-- The store with only the debit of a transaction in it. -/
def halfPosted (t : LedgerTransaction) (s : MemoryStore) : MemoryStore :=
  { s with entries := s.entries.extend [(t.debit.id, t.debit)] }

/-- A transaction that is refused changes nothing. -/
theorem appendTransaction_of_fault {fault : StoreFault}
    (h : s.appendFault? cancelled ctx t = some fault) :
    s.appendTransaction cancelled ctx t event = (.error fault, s) := by
  unfold appendFault? at h
  unfold appendTransaction
  by_cases htenant : t.tenant ≠ ctx.tenant
  · rw [if_pos htenant] at h ⊢
    rw [Option.some.inj h]
  rw [if_neg htenant] at h ⊢
  cases haccount : s.account? ctx.tenant t.account with
  | none =>
    simp only [haccount] at h ⊢
    rw [Option.some.inj h]
  | some account =>
    simp only [haccount] at h ⊢
    by_cases hreceive : (!account.canReceive) = true
    · rw [if_pos hreceive] at h ⊢
      rw [Option.some.inj h]
    rw [if_neg hreceive] at h ⊢
    by_cases hkey : (ctx.tenant, t.key) ∈ s.keys
    · rw [if_pos (List.contains_iff_mem.2 hkey)] at h
      rw [if_pos hkey, Option.some.inj h]
    rw [if_neg (mt List.contains_iff_mem.1 hkey)] at h
    rw [if_neg hkey]
    cases hfind : t.entries.find? fun e => s.entries.contains e.id with
    | some e =>
      simp only [hfind] at h ⊢
      rw [Option.some.inj h]
    | none =>
      simp only [hfind] at h ⊢
      split at h
      · next hcancelled =>
        rw [if_pos hcancelled, Option.some.inj h]
      · cases h

/-- A transaction that is admitted is written, entry by entry. -/
theorem appendTransaction_of_admits (h : s.Admits cancelled ctx t) :
    s.appendTransaction cancelled ctx t event =
      match s.insertEntries t.entries with
      | (.error fault, s) => (.error fault, s)
      | (.ok (), s) =>
        (.ok (), { s with keys := s.keys ++ [(ctx.tenant, t.key)]
                          outbox := s.outbox ++ [.ofTransaction event t] }) := by
  obtain ⟨htenant, ⟨account, haccount, hreceive⟩, hkey, hdebit, hcredit, rfl⟩ := h
  have hfind : t.entries.find? (fun e => s.entries.contains e.id) = none := by
    simp [LedgerTransaction.entries, WriteOnce.contains_iff, hdebit, hcredit]
  rcases hwritten : s.insertEntries t.entries with ⟨_ | _, _⟩ <;>
    simp only [appendTransaction, htenant, haccount, hreceive, hkey, hfind, hwritten, ne_eq,
      not_true_eq_false, Bool.not_true, Bool.false_eq_true, ↓reduceIte]

/-- Two new entries are both written when their identifiers differ. -/
theorem insertEntries_of_ne (hdebit : t.debit.id ∉ s.entries.keys)
    (hcredit : t.credit.id ∉ s.entries.keys) (hne : t.debit.id ≠ t.credit.id) :
    s.insertEntries t.entries = (.ok (), { s with
      entries := s.entries.extend [(t.debit.id, t.debit), (t.credit.id, t.credit)] }) := by
  have hsecond : t.credit.id ∉ (s.entries.extend [(t.debit.id, t.debit)]).keys := by
    simp [hcredit, hne.symm]
  simp only [LedgerTransaction.entries, insertEntries, WriteOnce.insert_of_not_mem hdebit,
    WriteOnce.insert_of_not_mem hsecond, WriteOnce.extend_extend, List.cons_append,
    List.nil_append]

/-- When they do not, the second meets the first, which was written a moment before. -/
theorem insertEntries_of_eq (hdebit : t.debit.id ∉ s.entries.keys)
    (heq : t.debit.id = t.credit.id) :
    s.insertEntries t.entries =
      (.error (.immutable s.entries.entity (shownKey t.debit.id)), s.halfPosted t) := by
  have hsecond : t.credit.id ∈ (s.entries.extend [(t.debit.id, t.debit)]).keys := by
    simp [heq]
  simp only [LedgerTransaction.entries, insertEntries, WriteOnce.insert_of_not_mem hdebit,
    WriteOnce.insert_of_mem hsecond]
  rw [halfPosted, heq]
  rfl

/-- **Appending, as a whole.** A transaction with a fault is refused. Any other one is written
whole if its entries differ in their identifiers, and if they do not, by half. -/
theorem appendTransaction_eq :
    s.appendTransaction cancelled ctx t event =
      match s.appendFault? cancelled ctx t with
      | some fault => (.error fault, s)
      | none =>
        if t.debit.id = t.credit.id then
          (.error (.immutable s.entries.entity (shownKey t.debit.id)), s.halfPosted t)
        else (.ok (), s.posted ctx t event) := by
  cases hfault : s.appendFault? cancelled ctx t with
  | some fault => exact appendTransaction_of_fault hfault
  | none =>
    have hadmits := appendFault?_eq_none_iff.1 hfault
    rw [appendTransaction_of_admits hadmits]
    by_cases heq : t.debit.id = t.credit.id
    · rw [insertEntries_of_eq hadmits.debit heq]
      simp only [heq, ↓reduceIte]
    · rw [insertEntries_of_ne hadmits.debit hadmits.credit heq]
      simp only [heq, ↓reduceIte, posted]

/-! ## Storing an invoice -/

/-- The counter of the month of a date. -/
def counter (ctx : RequestContext) (issueDate : Date) (s : MemoryStore) : UInt32 :=
  (s.sequences.lookup (ctx.tenant, InvoiceNumber.periodKey issueDate)).getD 0

/-- The last sequence of the month of a date. -/
def lastSequence (ctx : RequestContext) (issueDate : Date) (s : MemoryStore) : Nat :=
  (s.counter ctx issueDate).toNat

/-- The counter of the month of a date, counted on. -/
def nextSequence (ctx : RequestContext) (issueDate : Date) (s : MemoryStore) : UInt32 :=
  s.counter ctx issueDate + 1

/-- A month whose last sequence is the last of 32 bits, so that no number is left. -/
def UsedUp (ctx : RequestContext) (month : Date) (s : MemoryStore) : Prop :=
  s.lastSequence ctx month + 1 = 2 ^ 32

/-- A month has a number left or is used up. -/
theorem lastSequence_lt_or_usedUp (ctx : RequestContext) (month : Date) (s : MemoryStore) :
    s.lastSequence ctx month + 1 < 2 ^ 32 ∨ s.UsedUp ctx month := by
  have hsize : s.lastSequence ctx month < 2 ^ 32 := (s.counter ctx month).toNat_lt
  unfold UsedUp
  omega

/-- **The next sequence is one more than the last**, if 32 bits hold it. -/
theorem toNat_nextSequence {month : Date} (h : s.lastSequence ctx month + 1 < 2 ^ 32) :
    (s.nextSequence ctx month).toNat = s.lastSequence ctx month + 1 := by
  rw [nextSequence, UInt32.toNat_add]
  exact Nat.mod_eq_of_lt h

/-- A month that has a number left can be counted on. -/
theorem nextSequence?_of_lt {month : Date} (h : s.lastSequence ctx month + 1 < 2 ^ 32) :
    nextSequence? (s.counter ctx month) = some (s.nextSequence ctx month) :=
  if_pos h

/-- A month that is used up cannot. -/
theorem nextSequence?_of_usedUp {month : Date} (h : s.UsedUp ctx month) :
    nextSequence? (s.counter ctx month) = none :=
  if_neg (Nat.not_lt_of_ge (Nat.le_of_eq h.symm))

/-- The draft with the next number of its month. -/
def numbered (ctx : RequestContext) (d : InvoiceDraft) (s : MemoryStore) :
    Except RangeFault Invoice := do
  let sequence ← RangeFault.sequence.get (nextSequence? (s.counter ctx d.issueDate))
  d.toInvoice (.new d.issueDate sequence.toNat)

/-- In a month that has a number left, a draft is numbered by it. -/
theorem numbered_of_lt (h : s.lastSequence ctx d.issueDate + 1 < 2 ^ 32) :
    s.numbered ctx d = d.toInvoice (.new d.issueDate (s.lastSequence ctx d.issueDate + 1)) := by
  rw [numbered, nextSequence?_of_lt h, ← toNat_nextSequence h]
  rfl

/-- In a month that is used up, numbering is a fault. -/
theorem numbered_of_usedUp (h : s.UsedUp ctx d.issueDate) :
    s.numbered ctx d = .error .sequence := by
  rw [numbered, nextSequence?_of_usedUp h]
  rfl

/-- A draft whose outstanding sum is in range can be numbered there. -/
theorem exists_numbered {rest : Money} (h : s.lastSequence ctx d.issueDate + 1 < 2 ^ 32)
    (hrest : d.subtotal.sub d.paymentsApplied = .ok rest) : ∃ i, s.numbered ctx d = .ok i := by
  rw [numbered_of_lt h, InvoiceDraft.toInvoice, hrest]
  exact ⟨_, rfl⟩

/-- A draft is numbered by the next number, and only in a month that has one left. -/
theorem numbered_eq_ok_iff {i : Invoice} :
    s.numbered ctx d = .ok i ↔ s.lastSequence ctx d.issueDate + 1 < 2 ^ 32 ∧
      d.toInvoice (.new d.issueDate (s.lastSequence ctx d.issueDate + 1)) = .ok i := by
  rcases lastSequence_lt_or_usedUp ctx d.issueDate s with hleft | hused
  · rw [numbered_of_lt hleft, and_iff_right hleft]
  · rw [numbered_of_usedUp hused]
    exact ⟨nofun, fun h => absurd hused (Nat.ne_of_lt h.1)⟩

/-- Why the store does not number a draft. -/
def draftFault? (ctx : RequestContext) (d : InvoiceDraft) (s : MemoryStore) : Option StoreFault :=
  if d.tenant ≠ ctx.tenant then some (foreign d.tenant)
  else d.entryIds.findSome? (s.billingFault? ctx.tenant d.account)

/-- Why the store does not begin to write a numbered invoice. -/
def invoiceFault? (cancelled : Bool) (ctx : RequestContext) (i : Invoice) (s : MemoryStore) :
    Option StoreFault :=
  if s.invoices.values.any fun j => j.tenant = ctx.tenant && j.number = i.number then
    some (.conflict ("invoice number " ++ i.number.text ++ " already exists"))
  else if s.invoices.contains i.id then some (.immutable "Invoice" i.id.toText)
  else if cancelled then some .cancelled
  else none

/-- **Storing an invoice, as a whole.** -/
theorem insertInvoice_eq :
    s.insertInvoice cancelled ctx d event =
      match s.draftFault? ctx d with
      | some fault => .ok (.error fault, s)
      | none => (s.numbered ctx d).map fun i =>
        match s.invoiceFault? cancelled ctx i with
        | some fault => (.error fault, s)
        | none => s.writeInvoice ctx (s.nextSequence ctx d.issueDate) i event := by
  unfold insertInvoice draftFault?
  by_cases htenant : d.tenant ≠ ctx.tenant
  · rw [if_pos htenant, if_pos htenant]
    rfl
  rw [if_neg htenant, if_neg htenant]
  cases hfault : d.entryIds.findSome? (s.billingFault? ctx.tenant d.account) with
  | some fault => rfl
  | none =>
    -- the number is the same for the checks that are left and for what is written
    rcases lastSequence_lt_or_usedUp ctx d.issueDate s with hleft | hused
    swap
    · rw [numbered_of_usedUp hused]
      have hnone := nextSequence?_of_usedUp hused
      rw [counter] at hnone
      simp only [hnone, RangeFault.get, error_bind, Except.map]
    have hnext := nextSequence?_of_lt hleft
    rw [counter] at hnext
    rw [numbered_of_lt hleft]
    simp only [hnext, RangeFault.get, ok_bind, toNat_nextSequence hleft]
    cases hnumbered : d.toInvoice (.new d.issueDate (s.lastSequence ctx d.issueDate + 1)) with
    | error fault => rfl
    | ok i =>
      simp only [ok_bind, Except.map, invoiceFault?]
      by_cases hnumber : (s.invoices.values.any fun j =>
          j.tenant = ctx.tenant && j.number = i.number) = true
      · rw [if_pos hnumber, if_pos hnumber]
        rfl
      rw [if_neg hnumber, if_neg hnumber]
      by_cases hid : s.invoices.contains i.id = true
      · rw [if_pos hid, if_pos hid]
        rfl
      rw [if_neg hid, if_neg hid]
      cases cancelled <;> rfl

/-- In a month that is used up, a draft that nothing is against comes to a fault. -/
theorem insertInvoice_of_usedUp (cancelled : Bool) (event : EventId)
    (hdraft : s.draftFault? ctx d = none) (hused : s.UsedUp ctx d.issueDate) :
    s.insertInvoice cancelled ctx d event = .error .sequence := by
  rw [insertInvoice_eq, hdraft]
  simp only [numbered_of_usedUp hused, Except.map]

/-- Marking entries goes on until one is marked already. -/
theorem markBilled_state (tenant : TenantId) (invoice : InvoiceId) (entries : List EntryId)
    (s : MemoryStore) :
    ∃ marked, marked <+: entries ∧ marked.Nodup ∧
      (∀ e ∈ marked, (tenant, e) ∉ s.billed.keys) ∧
      (s.markBilled tenant invoice entries).2 =
        { s with billed := s.billed.extend (marked.map fun e => ((tenant, e), invoice)) } := by
  induction entries generalizing s with
  | nil =>
    exact ⟨[], List.prefix_refl _, List.nodup_nil, by simp, by simp [markBilled, WriteOnce.extend]⟩
  | cons e rest ih =>
    by_cases he : (tenant, e) ∈ s.billed.keys
    · refine ⟨[], List.nil_prefix, List.nodup_nil, by simp, ?_⟩
      simp [markBilled, WriteOnce.insert_of_mem he, WriteOnce.extend]
    · simp only [markBilled, WriteOnce.insert_of_not_mem he]
      obtain ⟨marked, hprefix, hnodup, hnew, hstate⟩ :=
        ih { s with billed := s.billed.extend [((tenant, e), invoice)] }
      -- what is marked later was unmarked with `e` marked, so it is none of the old and not `e`
      have hsplit : ∀ x ∈ marked, (tenant, x) ∉ s.billed.keys ∧ x ≠ e := by
        intro x hx
        simpa using hnew x hx
      refine ⟨e :: marked, List.cons_prefix_cons.2 ⟨rfl, hprefix⟩,
        List.nodup_cons.2 ⟨fun hmem => (hsplit e hmem).2 rfl, hnodup⟩, ?_, ?_⟩
      · intro x hx
        rcases List.mem_cons.1 hx with rfl | hx
        · exact he
        · exact (hsplit x hx).1
      · rw [hstate]
        simp

/-- Different entries that are not marked yet are all marked. -/
theorem markBilled_of_nodup {invoice : InvoiceId} {entries : List EntryId}
    (hnodup : entries.Nodup) (hnew : ∀ e ∈ entries, (tenant, e) ∉ s.billed.keys) :
    s.markBilled tenant invoice entries =
      (.ok (), { s with
        billed := s.billed.extend (entries.map fun e => ((tenant, e), invoice)) }) := by
  induction entries generalizing s with
  | nil => simp [markBilled, WriteOnce.extend]
  | cons e rest ih =>
    obtain ⟨hfirst, hrest⟩ := List.nodup_cons.1 hnodup
    have he : (tenant, e) ∉ s.billed.keys := hnew e (List.mem_cons_self ..)
    have hnew' : ∀ x ∈ rest, (tenant, x) ∉ (s.billed.extend [((tenant, e), invoice)]).keys := by
      intro x hx
      have hne : x ≠ e := fun heq => hfirst (heq ▸ hx)
      simp [hnew x (List.mem_cons_of_mem _ hx), hne]
    simp only [markBilled, WriteOnce.insert_of_not_mem he]
    rw [ih hrest hnew']
    simp

/-- Entries that are all marked were different and not marked before. -/
theorem nodup_of_markBilled {invoice : InvoiceId} {entries : List EntryId}
    (h : (s.markBilled tenant invoice entries).1 = .ok ()) :
    entries.Nodup ∧ ∀ e ∈ entries, (tenant, e) ∉ s.billed.keys := by
  induction entries generalizing s with
  | nil => exact ⟨List.nodup_nil, by simp⟩
  | cons e rest ih =>
    by_cases he : (tenant, e) ∈ s.billed.keys
    · rw [markBilled, WriteOnce.insert_of_mem he] at h
      cases h
    · simp only [markBilled, WriteOnce.insert_of_not_mem he] at h
      obtain ⟨hrest, hnew⟩ := ih h
      have hsplit : ∀ x ∈ rest, (tenant, x) ∉ s.billed.keys ∧ x ≠ e := by
        intro x hx
        simpa using hnew x hx
      refine ⟨List.nodup_cons.2 ⟨fun hmem => (hsplit e hmem).2 rfl, hrest⟩, fun x hx => ?_⟩
      rcases List.mem_cons.1 hx with rfl | hx
      · exact he
      · exact (hsplit x hx).1

/-- The store with an invoice in it: its markers, its sequence, itself and its event. -/
def invoiced (ctx : RequestContext) (sequence : UInt32) (i : Invoice) (event : EventId)
    (s : MemoryStore) : MemoryStore :=
  { s with
    billed := s.billed.extend (i.lines.map fun l => ((ctx.tenant, l.entry), i.id))
    sequences := setSequence (ctx.tenant, InvoiceNumber.periodKey i.issueDate) sequence s.sequences
    invoices := s.invoices.extend [(i.id, i)]
    outbox := s.outbox ++ [.ofInvoice event i] }

variable {i : Invoice} {sequence : UInt32}

/-- A new invoice whose lines are of different, unmarked entries is written whole. -/
theorem writeInvoice_of_nodup (hnodup : (i.lines.map (·.entry)).Nodup)
    (hnew : ∀ e ∈ i.lines.map (·.entry), (ctx.tenant, e) ∉ s.billed.keys)
    (hid : i.id ∉ s.invoices.keys) :
    s.writeInvoice ctx sequence i event = (.ok i, s.invoiced ctx sequence i event) := by
  simp only [writeInvoice, markBilled_of_nodup hnodup hnew, WriteOnce.insert_of_not_mem hid,
    invoiced, List.map_map, Function.comp_def]

/-- An invoice of which two lines are of one entry is given up at the second of them. -/
theorem writeInvoice_of_not_nodup (ctx : RequestContext) (sequence : UInt32) (event : EventId)
    (s : MemoryStore) (hdup : ¬(i.lines.map (·.entry)).Nodup) :
    ∃ fault marked, marked <+: i.lines.map (·.entry) ∧ marked.Nodup ∧
      s.writeInvoice ctx sequence i event = (.error fault, { s with
        billed := s.billed.extend (marked.map fun e => ((ctx.tenant, e), i.id)) }) := by
  obtain ⟨marked, hprefix, hnodup, -, hstate⟩ :=
    markBilled_state ctx.tenant i.id (i.lines.map (·.entry)) s
  cases hmark : s.markBilled ctx.tenant i.id (i.lines.map (·.entry)) with
  | mk result after =>
    rw [hmark] at hstate
    cases result with
    | error fault =>
      refine ⟨fault, marked, hprefix, hnodup, ?_⟩
      simp only [writeInvoice, hmark]
      rw [← hstate]
    | ok _ => exact absurd (nodup_of_markBilled (by rw [hmark])).1 hdup

/-- A draft can be numbered when it is the tenant's own, and each of its entries is one of the
account's and on no invoice. -/
theorem draftFault?_eq_none_iff :
    s.draftFault? ctx d = none ↔
      d.tenant = ctx.tenant ∧ ∀ e ∈ d.entryIds,
        (∃ charge, s.entries.get? e = some charge ∧ charge.tenant = ctx.tenant ∧
          charge.account = d.account) ∧ (ctx.tenant, e) ∉ s.billed.keys := by
  have hbilling (e : EntryId) : s.billingFault? ctx.tenant d.account e = none ↔
      (∃ charge, s.entries.get? e = some charge ∧ charge.tenant = ctx.tenant ∧
        charge.account = d.account) ∧ (ctx.tenant, e) ∉ s.billed.keys := by
    simp only [billingFault?, ← WriteOnce.contains_iff]
    cases s.entries.get? e with
    | none => simp
    | some charge =>
      by_cases htenant : charge.tenant = ctx.tenant <;>
        by_cases haccount : charge.account = d.account <;> simp [htenant, haccount]
  rw [draftFault?]
  split
  · next htenant => simp [htenant]
  · next htenant =>
    rw [List.findSome?_eq_none_iff]
    simp only [hbilling, not_not.1 htenant, true_and]

/-- A numbered invoice can be written when its number and its identifier are new and the request
was not cancelled. -/
theorem invoiceFault?_eq_none_iff :
    s.invoiceFault? cancelled ctx i = none ↔
      (∀ j ∈ s.invoices.values, j.tenant = ctx.tenant → j.number ≠ i.number) ∧
        i.id ∉ s.invoices.keys ∧ cancelled = false := by
  have hnumber : (s.invoices.values.any fun j => j.tenant = ctx.tenant && j.number = i.number) =
      true ↔ ¬∀ j ∈ s.invoices.values, j.tenant = ctx.tenant → j.number ≠ i.number := by
    simp
  simp only [invoiceFault?, WriteOnce.contains_iff, hnumber]
  split
  · next htaken =>
    simp only [reduceCtorEq, false_iff, not_and]
    exact fun h => absurd h htaken
  · next hfree =>
    split
    · next hid => simp [hid]
    · next hid =>
      constructor
      · exact fun h => ⟨not_not.1 hfree, hid, by simpa using h⟩
      · rintro ⟨-, -, rfl⟩
        rfl

/-- What an invoice has from its draft, and what numbering adds to it. -/
structure Numbers (s : MemoryStore) (ctx : RequestContext) (d : InvoiceDraft) (i : Invoice) :
    Prop where
  outstanding : d.subtotal.sub d.paymentsApplied = .ok i.outstanding
  left : s.lastSequence ctx d.issueDate + 1 < 2 ^ 32
  number : i.number = .new d.issueDate (s.lastSequence ctx d.issueDate + 1)
  id : i.id = d.id
  tenant : i.tenant = d.tenant
  account : i.account = d.account
  period : i.period = d.period
  issueDate : i.issueDate = d.issueDate
  subtotal : i.subtotal = d.subtotal
  paymentsApplied : i.paymentsApplied = d.paymentsApplied
  lines : i.lines = d.lines

theorem numbers_of_numbered (h : s.numbered ctx d = .ok i) : s.Numbers ctx d i := by
  obtain ⟨hleft, hinvoice⟩ := numbered_eq_ok_iff.1 h
  obtain ⟨rest, hrest, hi⟩ := bind_eq_ok.1 hinvoice
  obtain rfl := Except.ok.inj hi
  exact ⟨hrest, hleft, rfl, rfl, rfl, rfl, rfl, rfl, rfl, rfl, rfl⟩

/-- An invoice that the store numbers is the tenant's own. -/
theorem tenant_of_numbered (hdraft : s.draftFault? ctx d = none)
    (hnumbered : s.numbered ctx d = .ok i) : i.tenant = ctx.tenant :=
  (numbers_of_numbered hnumbered).tenant.trans (draftFault?_eq_none_iff.1 hdraft).1

/-- The lines of the invoice are for the entries of the draft. -/
theorem Numbers.entries (h : s.Numbers ctx d i) : i.lines.map (·.entry) = d.entryIds := by
  rw [h.lines, InvoiceDraft.entryIds]

/-- **Storing a draft of different entries**: nothing can break off in the middle. -/
theorem insertInvoice_of_nodup (hnodup : d.entryIds.Nodup) :
    s.insertInvoice cancelled ctx d event =
      match s.draftFault? ctx d with
      | some fault => .ok (.error fault, s)
      | none => (s.numbered ctx d).map fun i =>
        match s.invoiceFault? cancelled ctx i with
        | some fault => (.error fault, s)
        | none => (.ok i, s.invoiced ctx (s.nextSequence ctx d.issueDate) i event) := by
  rw [insertInvoice_eq]
  cases hdraft : s.draftFault? ctx d with
  | some fault => rfl
  | none =>
    cases hnumbered : s.numbered ctx d with
    | error fault => rfl
    | ok i =>
      simp only [Except.map]
      cases hinvoice : s.invoiceFault? cancelled ctx i with
      | some fault => rfl
      | none =>
        have hids := (numbers_of_numbered hnumbered).entries
        have hnew := (draftFault?_eq_none_iff.1 hdraft).2
        simp only [writeInvoice_of_nodup (hids ▸ hnodup) (fun e he => (hnew e (hids ▸ he)).2)
          (invoiceFault?_eq_none_iff.1 hinvoice).2.1]

/-- A cancelled request stores no draft, and no part of one. -/
theorem insertInvoice_of_cancelled {answer : Except StoreFault Invoice}
    (h : s.insertInvoice true ctx d event = .ok (answer, s')) :
    (∃ fault, answer = .error fault) ∧ s' = s := by
  rw [insertInvoice_eq] at h
  cases hdraft : s.draftFault? ctx d with
  | some fault =>
    simp only [hdraft, Except.ok.injEq, Prod.mk.injEq] at h
    exact ⟨⟨fault, h.1.symm⟩, h.2.symm⟩
  | none =>
    cases hnumbered : s.numbered ctx d with
    | error overflow => simp [hdraft, hnumbered, Except.map] at h
    | ok i =>
      simp only [hdraft, hnumbered, Except.map, Except.ok.injEq] at h
      cases hinvoice : s.invoiceFault? true ctx i with
      | some fault =>
        simp only [hinvoice, Prod.mk.injEq] at h
        exact ⟨⟨fault, h.1.symm⟩, h.2.symm⟩
      | none => exact nomatch (invoiceFault?_eq_none_iff.1 hinvoice).2.2

/-! ## All requests -/

/-- What serving a request can make of a store. -/
inductive Commit (cancelled : Bool) (s : MemoryStore) : StoreRequest → MemoryStore → Prop
  | unchanged {request} : Commit cancelled s request s
  | opened {ctx : RequestContext} {a : Account} (tenant : a.tenant = ctx.tenant)
      (live : cancelled = false)
      (name : ∀ b ∈ s.accounts, b.tenant = ctx.tenant → b.name ≠ a.name)
      (id : ∀ b ∈ s.accounts, b.id ≠ a.id) :
      Commit cancelled s (.insertAccount ctx a) { s with accounts := s.accounts ++ [a] }
  | updated {ctx : RequestContext} {a old : Account} (tenant : a.tenant = ctx.tenant)
      (live : cancelled = false)
      (found : s.account? ctx.tenant a.id = some old) :
      Commit cancelled s (.updateAccount ctx a)
        { s with accounts := s.accounts.map fun b => if b.id = a.id then a else b }
  | posted {ctx : RequestContext} {t : LedgerTransaction} {event : EventId}
      (admits : s.Admits cancelled ctx t)
      (distinct : t.debit.id ≠ t.credit.id) :
      Commit cancelled s (.appendTransaction ctx t event) (s.posted ctx t event)
  | halfPosted {ctx : RequestContext} {t : LedgerTransaction} {event : EventId}
      (admits : s.Admits cancelled ctx t)
      (same : t.debit.id = t.credit.id) :
      Commit cancelled s (.appendTransaction ctx t event) (s.halfPosted t)
  | invoiced {ctx : RequestContext} {d : InvoiceDraft} {event : EventId} {i : Invoice}
      (draft : s.draftFault? ctx d = none) (numbered : s.numbered ctx d = .ok i)
      (invoice : s.invoiceFault? cancelled ctx i = none) (nodup : d.entryIds.Nodup) :
      Commit cancelled s (.insertInvoice ctx d event)
        (s.invoiced ctx (s.nextSequence ctx d.issueDate) i event)
  | halfInvoiced {ctx : RequestContext} {d : InvoiceDraft} {event : EventId}
      {marked : List EntryId} (draft : s.draftFault? ctx d = none) (dup : ¬d.entryIds.Nodup)
      (part : marked <+: d.entryIds) (nodup : marked.Nodup) :
      Commit cancelled s (.insertInvoice ctx d event)
        { s with billed := s.billed.extend (marked.map fun e => ((ctx.tenant, e), d.id)) }
  | stamped {ctx : RequestContext} {id : EventId} {at_ : Instant} {outbox : List OutboxEvent}
      (found : stampEvent ctx.tenant id at_ s.outbox = some outbox) :
      Commit cancelled s (.markDispatched ctx id at_) { s with outbox := outbox }

/-- Inserting an account. -/
theorem commit_of_insertAccount {a : Account} :
    Commit cancelled s (.insertAccount ctx a) (s.insertAccount cancelled ctx a).2 := by
  unfold insertAccount
  split
  · exact .unchanged
  · next htenant =>
    split
    · exact .unchanged
    · next hlive =>
      split
      · exact .unchanged
      · next hname =>
        split
        · exact .unchanged
        · next hid =>
          exact .opened (not_not.1 htenant) (by simpa using hlive) (by simpa using hname)
            (by simpa using hid)

/-- Updating an account. -/
theorem commit_of_updateAccount {a : Account} :
    Commit cancelled s (.updateAccount ctx a) (s.updateAccount cancelled ctx a).2 := by
  unfold updateAccount
  split
  · exact .unchanged
  · next htenant =>
    split
    · exact .unchanged
    · next hlive =>
      split
      · exact .unchanged
      · next hfound => exact .updated (not_not.1 htenant) (by simpa using hlive) hfound

/-- Appending a transaction. -/
theorem commit_of_appendTransaction :
    Commit cancelled s (.appendTransaction ctx t event)
      (s.appendTransaction cancelled ctx t event).2 := by
  rw [appendTransaction_eq]
  cases hfault : s.appendFault? cancelled ctx t with
  | some fault => exact .unchanged
  | none =>
    have hadmits := appendFault?_eq_none_iff.1 hfault
    by_cases hsame : t.debit.id = t.credit.id
    · simp only [hsame, ↓reduceIte]
      exact .halfPosted hadmits hsame
    · simp only [hsame, ↓reduceIte]
      exact .posted hadmits hsame

/-- Storing a draft. -/
theorem commit_of_insertInvoice {answer : Except StoreFault Invoice}
    (h : s.insertInvoice cancelled ctx d event = .ok (answer, s')) :
    Commit cancelled s (.insertInvoice ctx d event) s' := by
  rw [insertInvoice_eq] at h
  cases hdraft : s.draftFault? ctx d with
  | some fault =>
    simp only [hdraft, Except.ok.injEq, Prod.mk.injEq] at h
    exact h.2 ▸ .unchanged
  | none =>
    cases hnumbered : s.numbered ctx d with
    | error fault => simp [hdraft, hnumbered, Except.map] at h
    | ok i =>
      simp only [hdraft, hnumbered, Except.map, Except.ok.injEq] at h
      cases hinvoice : s.invoiceFault? cancelled ctx i with
      | some fault =>
        simp only [hinvoice, Prod.mk.injEq] at h
        exact h.2 ▸ .unchanged
      | none =>
        simp only [hinvoice] at h
        have hof := numbers_of_numbered hnumbered
        have hids := hof.entries
        by_cases hnodup : d.entryIds.Nodup
        · have hnew := (draftFault?_eq_none_iff.1 hdraft).2
          rw [writeInvoice_of_nodup (hids ▸ hnodup) (fun e he => (hnew e (hids ▸ he)).2)
            (invoiceFault?_eq_none_iff.1 hinvoice).2.1, Prod.mk.injEq] at h
          exact h.2 ▸ .invoiced hdraft hnumbered hinvoice hnodup
        · obtain ⟨fault, marked, hprefix, hmarked, hwrite⟩ :=
            writeInvoice_of_not_nodup ctx (s.nextSequence ctx d.issueDate) event s
              (hids ▸ hnodup)
          rw [hwrite, Prod.mk.injEq, hof.id] at h
          exact h.2 ▸ .halfInvoiced hdraft hnodup (hids ▸ hprefix) hmarked

/-- Stamping an event. -/
theorem commit_of_markDispatched {id : EventId} {at_ : Instant} :
    Commit cancelled s (.markDispatched ctx id at_) (s.markDispatched ctx id at_).2 := by
  unfold markDispatched
  split
  · exact .unchanged
  · next hfound => exact .stamped hfound

/-- A request that was answered by a pair left the store of the pair. -/
theorem Commit.of_served {request : StoreRequest} {answer : request.Answer}
    {reply : request.Answer × MemoryStore}
    (h : (Except.ok reply : Except RangeFault (request.Answer × MemoryStore)) =
      .ok (answer, s')) (hcommit : Commit cancelled s request reply.2) :
    Commit cancelled s request s' := by
  obtain rfl := Except.ok.inj h
  exact hcommit

/-- **Whatever is served, the store afterwards is one that `Commit` lists.** -/
theorem commit_of_serve {request : StoreRequest} {answer : request.Answer}
    (h : s.serve cancelled request = .ok (answer, s')) : Commit cancelled s request s' := by
  cases request with
  | insertAccount ctx a => exact .of_served h commit_of_insertAccount
  | updateAccount ctx a => exact .of_served h commit_of_updateAccount
  | appendTransaction ctx t event => exact .of_served h commit_of_appendTransaction
  | insertInvoice ctx d event => exact commit_of_insertInvoice h
  | markDispatched ctx id at_ => exact .of_served h commit_of_markDispatched
  | receivableBalance ctx account before =>
    obtain ⟨balance, -, hreply⟩ := bind_eq_ok.1 h
    exact .of_served hreply .unchanged
  | ledgerTotals ctx =>
    obtain ⟨totals, -, hreply⟩ := bind_eq_ok.1 h
    exact .of_served hreply .unchanged
  | _ => exact .of_served h .unchanged

end MemoryStore

end RideLedger
