import RideLedger.Proofs.Listing
import RideLedger.Proofs.Writes

/-!
# Filing — what every write keeps in order

Two facts about the store that need nothing of whoever writes to it. Everything in it is filed
under its own identifier, once (`Filed`). And what was written stays: the entries, the keys, the
invoices and the markers of a later store begin with those of an earlier one (`Extends`).
-/

namespace RideLedger

namespace MemoryStore

variable {cancelled : Bool} {request : StoreRequest} {s s' s'' : MemoryStore}

/-! ## What was written stays -/

/-- A store that has everything that was written to another one, in the same order. -/
structure Extends (s s' : MemoryStore) : Prop where
  entries : s.entries.items <+: s'.entries.items
  keys : s.keys <+: s'.keys
  invoices : s.invoices.items <+: s'.invoices.items
  billed : s.billed.items <+: s'.billed.items

theorem Extends.refl (s : MemoryStore) : s.Extends s :=
  ⟨List.prefix_refl _, List.prefix_refl _, List.prefix_refl _, List.prefix_refl _⟩

theorem Extends.trans (h : s.Extends s') (h' : s'.Extends s'') : s.Extends s'' :=
  ⟨h.entries.trans h'.entries, h.keys.trans h'.keys, h.invoices.trans h'.invoices,
    h.billed.trans h'.billed⟩

/-- **No request takes anything away.** -/
theorem Commit.extends (h : Commit cancelled s request s') : s.Extends s' := by
  cases h with
  | unchanged => exact .refl s
  | posted =>
    exact ⟨List.prefix_append .., List.prefix_append .., List.prefix_refl _, List.prefix_refl _⟩
  | halfPosted =>
    exact ⟨List.prefix_append .., List.prefix_refl _, List.prefix_refl _, List.prefix_refl _⟩
  | invoiced =>
    exact ⟨List.prefix_refl _, List.prefix_refl _, List.prefix_append .., List.prefix_append ..⟩
  | halfInvoiced =>
    exact ⟨List.prefix_refl _, List.prefix_refl _, List.prefix_refl _, List.prefix_append ..⟩
  | _ => exact ⟨List.prefix_refl _, List.prefix_refl _, List.prefix_refl _, List.prefix_refl _⟩

end MemoryStore

namespace WriteOnce

variable {κ ν : Type} [DecidableEq κ] {m m' : WriteOnce κ ν} {key : κ} {value : ν}

/-- A key keeps its value while the items grow. -/
theorem get?_of_prefix (h : m.items <+: m'.items) (hget : m.get? key = some value) :
    m'.get? key = some value := by
  obtain ⟨added, hadded⟩ := h
  have hm' : m'.get? key = (m.extend added).get? key := by
    rw [get?, get?, extend_items, hadded]
  rw [hm', get?_extend_of_some hget]

omit [DecidableEq κ] in
/-- The keys of a map that files each value under a key of its own. -/
theorem values_map_own {own : ν → κ} (hown : ∀ item ∈ m.items, item.1 = own item.2) :
    m.values.map own = m.keys := by
  rw [values, keys, List.map_map]
  exact List.map_congr_left fun item hitem => (hown item hitem).symm

end WriteOnce

namespace MemoryStore

variable {cancelled : Bool} {request : StoreRequest} {s s' : MemoryStore}

/-! ## Everything has its place -/

/-- A store in which everything is filed under its identifier, once. -/
structure Filed (s : MemoryStore) : Prop where
  accounts_nodup : (s.accounts.map (·.id)).Nodup
  entries_own : ∀ item ∈ s.entries.items, item.1 = item.2.id
  entries_nodup : s.entries.keys.Nodup
  keys_nodup : s.keys.Nodup
  invoices_own : ∀ item ∈ s.invoices.items, item.1 = item.2.id
  invoices_nodup : s.invoices.keys.Nodup
  billed_nodup : s.billed.keys.Nodup

theorem filed_empty : empty.Filed :=
  ⟨List.nodup_nil, by simp [empty, WriteOnce.empty], List.nodup_nil, List.nodup_nil,
    by simp [empty, WriteOnce.empty], List.nodup_nil, List.nodup_nil⟩

/-- The entry with an identifier is the stored one that has it. -/
theorem Filed.get?_eq_some_iff (h : s.Filed) {id : EntryId} {e : LedgerEntry} :
    s.entries.get? id = some e ↔ e ∈ s.entries.values ∧ e.id = id :=
  WriteOnce.get?_eq_some_iff h.entries_nodup h.entries_own

/-- No two stored entries have one identifier. -/
theorem Filed.ids_nodup (h : s.Filed) : (s.entries.values.map (·.id)).Nodup := by
  rw [WriteOnce.values_map_own h.entries_own]
  exact h.entries_nodup

/-- The invoice with an identifier is the stored one that has it. -/
theorem Filed.invoice_eq_some_iff (h : s.Filed) {id : InvoiceId} {i : Invoice} :
    s.invoices.get? id = some i ↔ i ∈ s.invoices.values ∧ i.id = id :=
  WriteOnce.get?_eq_some_iff h.invoices_nodup h.invoices_own

/-- The account that is found has the identifier it was looked for. -/
theorem id_of_account? {tenant : TenantId} {id : AccountId} {a : Account}
    (h : s.account? tenant id = some a) : a.id = id := by
  rw [account?, Option.filter_eq_some_iff] at h
  simpa using List.find?_some h.1

/-- The account with an identifier is the stored one that has it. -/
theorem Filed.account?_eq_some_iff (h : s.Filed) {tenant : TenantId} {id : AccountId}
    {a : Account} :
    s.account? tenant id = some a ↔ a ∈ s.accounts ∧ a.id = id ∧ a.tenant = tenant := by
  rw [account?, Option.filter_eq_some_iff, decide_eq_true_eq,
    find?_key_eq_some_iff h.accounts_nodup, and_assoc]

/-- New keys, each once, can be added to keys that are there once. -/
theorem nodup_append_of_new {κ : Type} {old new : List κ} (hold : old.Nodup) (hnew : new.Nodup)
    (hdisjoint : ∀ key ∈ new, key ∉ old) : (old ++ new).Nodup :=
  List.nodup_append.2 ⟨hold, hnew, fun _ ha b hb hab => hdisjoint b hb (hab ▸ ha)⟩

/-- Items under new keys, each once, can be added to items that have keys of their own. -/
theorem keys_nodup_extend {κ ν : Type} {m : WriteOnce κ ν} {added : List (κ × ν)}
    (hold : m.keys.Nodup) (hnew : (added.map (·.1)).Nodup)
    (hdisjoint : ∀ key ∈ added.map (·.1), key ∉ m.keys) : (m.extend added).keys.Nodup := by
  rw [WriteOnce.extend_keys]
  exact nodup_append_of_new hold hnew hdisjoint

/-- Different entries without a marker can be marked. -/
theorem billed_nodup_extend {tenant : TenantId} {entries : List EntryId}
    {marks : List ((TenantId × EntryId) × InvoiceId)} (hold : s.billed.keys.Nodup)
    (hmarks : marks.map (·.1) = entries.map fun e => (tenant, e)) (hentries : entries.Nodup)
    (hnew : ∀ e ∈ entries, (tenant, e) ∉ s.billed.keys) : (s.billed.extend marks).keys.Nodup := by
  refine keys_nodup_extend hold ?_ ?_ <;> rw [hmarks]
  · exact hentries.map fun _ _ heq => (Prod.mk.inj heq).2
  · intro key hkey
    obtain ⟨e, he, rfl⟩ := List.mem_map.1 hkey
    exact hnew e he

/-- **Every request leaves everything in its place.** -/
theorem Commit.filed (h : Commit cancelled s request s') (hs : s.Filed) : s'.Filed := by
  cases h with
  | unchanged => exact hs
  | @opened ctx a htenant hlive hname hid =>
    refine { hs with accounts_nodup := ?_ }
    simp only [List.map_append, List.map_cons, List.map_nil]
    exact nodup_append_of_new hs.accounts_nodup (List.nodup_singleton _) (by simpa using hid)
  | @updated ctx a old htenant hlive hfound =>
    refine { hs with accounts_nodup := ?_ }
    have hids : (s.accounts.map fun b => if b.id = a.id then a else b).map (·.id) =
        s.accounts.map (·.id) := by
      rw [List.map_map]
      refine List.map_congr_left fun b _ => ?_
      by_cases hb : b.id = a.id <;> simp [hb]
    exact hids ▸ hs.accounts_nodup
  | @posted ctx t event hadmits hdistinct =>
    refine { hs with entries_own := ?_, entries_nodup := ?_, keys_nodup := ?_ }
    · exact List.forall_mem_append.2 ⟨hs.entries_own, by simp⟩
    · refine keys_nodup_extend hs.entries_nodup (by simpa using hdistinct) ?_
      simpa using ⟨hadmits.debit, hadmits.credit⟩
    · exact nodup_append_of_new hs.keys_nodup (List.nodup_singleton _) (by simpa using hadmits.key)
  | @halfPosted ctx t event hadmits hsame =>
    refine { hs with entries_own := ?_, entries_nodup := ?_ }
    · exact List.forall_mem_append.2 ⟨hs.entries_own, by simp⟩
    · exact keys_nodup_extend hs.entries_nodup (List.nodup_singleton _)
        (by simpa using hadmits.debit)
  | @invoiced ctx d event i hdraft hnumbered hinvoice hnodup =>
    have hlines := (numbers_of_numbered hnumbered).lines
    have hnew := (draftFault?_eq_none_iff.1 hdraft).2
    refine { hs with invoices_own := ?_, invoices_nodup := ?_, billed_nodup := ?_ }
    · exact List.forall_mem_append.2 ⟨hs.invoices_own, by simp⟩
    · exact keys_nodup_extend hs.invoices_nodup (List.nodup_singleton _)
        (by simpa using (invoiceFault?_eq_none_iff.1 hinvoice).2.1)
    · refine billed_nodup_extend hs.billed_nodup ?_ hnodup fun e he => (hnew e he).2
      rw [hlines, InvoiceDraft.entryIds, List.map_map, List.map_map]
      rfl
  | @halfInvoiced ctx d event marked hdraft hdup hpart hmarked =>
    have hnew := (draftFault?_eq_none_iff.1 hdraft).2
    refine { hs with billed_nodup := ?_ }
    refine billed_nodup_extend hs.billed_nodup ?_ hmarked fun e he => (hnew e (hpart.subset he)).2
    rw [List.map_map]
    rfl
  | stamped => exact { hs with }

end MemoryStore

end RideLedger
