import Mathlib.Data.List.Nodup
import RideLedger.MemoryStore

/-!
# Listings — the same items in any order

Two stores can hold the same items in different orders. What a store answers comes from its items
by filters, by the search for the one item with some key, and by sorting. None of these lets the
order through as long as no two items have one key: a search finds the same item
(`SameItems.find?_eq`), and sorting gives the same list (`SameItems.mergeSort_eq`). The orders that
the store sorts by are total, and items that one of them does not tell apart have one key
(`OrdersBy`).
-/

namespace RideLedger

/-! ## Orders -/

/-- A total order whose ties are between items of one key. -/
structure OrdersBy {α κ : Type} (key : α → κ) (le : α → α → Bool) : Prop where
  trans : ∀ a b c, le a b = true → le b c = true → le a c = true
  total : ∀ a b, (le a b || le b a) = true
  key_eq : ∀ a b, le a b = true → le b a = true → key a = key b

namespace OrdersBy

variable {α β κ : Type} {key : α → κ} {le : α → α → Bool}

/-- The same order, the other way around. -/
theorem flip (h : OrdersBy key le) : OrdersBy key fun a b => le b a where
  trans a b c hab hbc := h.trans c b a hbc hab
  total a b := h.total b a
  key_eq a b hab hba := h.key_eq a b hba hab

/-- A comparison orders by whatever is equal where it finds no difference. -/
theorem of_cmp (cmp : α → α → Ordering) [Std.TransCmp cmp]
    (heq : ∀ a b, cmp a b = .eq → key a = key b) : OrdersBy key fun a b => cmp a b != .gt := by
  have hle (a b : α) : (cmp a b != .gt) = (cmp a b).isLE := by
    cases cmp a b <;> rfl
  have hswap (a b : α) : cmp b a = (cmp a b).swap := Std.OrientedCmp.eq_swap
  simp only [hle]
  refine ⟨fun a b c hab hbc => Std.TransCmp.isLE_trans hab hbc, fun a b => ?_,
    fun a b hab hba => heq a b ?_⟩
  · rw [hswap a b]
    cases cmp a b <;> rfl
  · rw [hswap a b] at hba
    cases hcmp : cmp a b with
    | lt => rw [hcmp] at hba; cases hba
    | eq => rfl
    | gt => rw [hcmp] at hab; cases hab

/-- **Items with different keys are sorted strictly.** -/
theorem mergeSort_strict (cmp : α → α → Ordering) [Std.TransCmp cmp]
    (heq : ∀ a b, cmp a b = .eq → key a = key b) {l : List α} (hnodup : (l.map key).Nodup) :
    (l.mergeSort fun a b => cmp a b != .gt).Pairwise fun a b => cmp a b = .lt := by
  have horder := of_cmp cmp heq
  have hsorted := List.pairwise_mergeSort horder.trans horder.total l
  have hdistinct := ((List.mergeSort_perm l fun a b => cmp a b != .gt).map key).nodup_iff.2 hnodup
  refine hsorted.imp₂ (fun a b hab hne => ?_) (List.pairwise_map.1 hdistinct)
  cases hcmp : cmp a b with
  | lt => rfl
  | eq => exact absurd (heq a b hcmp) hne
  | gt => simp [hcmp] at hab

variable [Ord κ] [Std.LawfulEqOrd κ]

/-- Items that are also equal in what they are compared by last have one key. -/
theorem key_eq_of_compareLex [Ord β] {first : α → β} {a b : α}
    (h : compareLex (compareOn first) (compareOn key) a b = .eq) : key a = key b :=
  Std.LawfulEqOrd.eq_of_compare (Ordering.then_eq_eq.1 h).2

variable [Std.TransOrd κ]

/-- Items are ordered by their keys. -/
theorem compare_key (key : α → κ) :
    OrdersBy key fun a b => compare (key a) (key b) != .gt :=
  of_cmp (compareOn key) fun _ _ heq => Std.LawfulEqOrd.eq_of_compare heq

/-- Items are ordered by something else first, and then by their keys. -/
theorem compare_then [Ord β] [Std.TransOrd β] (first : α → β) (key : α → κ) :
    OrdersBy key fun a b =>
      (compare (first a) (first b)).then (compare (key a) (key b)) != .gt :=
  of_cmp (compareLex (compareOn first) (compareOn key)) fun _ _ => key_eq_of_compareLex

end OrdersBy

section Instances

instance : Std.TransOrd Uuid := inferInstanceAs (Std.TransCmp (compareOn Uuid.value))

instance {kind : IdKind} : Std.TransOrd (Id kind) :=
  inferInstanceAs (Std.TransCmp (compareOn fun a : Id kind => a.uuid))

instance : Std.TransOrd Instant := inferInstanceAs (Std.TransCmp (compareOn Instant.rank))

instance : Std.TransOrd InvoiceNumber :=
  inferInstanceAs (Std.TransCmp (compareOn InvoiceNumber.text))

instance {kind : IdKind} : Std.LawfulEqOrd (Id kind) where
  eq_of_compare {a b} h := by
    obtain ⟨⟨n, hn⟩⟩ := a
    obtain ⟨⟨m, hm⟩⟩ := b
    obtain rfl : n = m := Std.LawfulEqOrd.eq_of_compare (α := Nat) h
    rfl

instance : Std.LawfulEqOrd InvoiceNumber where
  eq_of_compare {a b} h := by
    obtain ⟨text⟩ := a
    obtain ⟨text'⟩ := b
    exact congrArg InvoiceNumber.mk (Std.LawfulEqOrd.eq_of_compare (α := String) h)

end Instances

/-- Accounts are sorted by name, and those of one name by identifier. -/
theorem ordersBy_nameLe : OrdersBy (·.id) MemoryStore.nameLe :=
  .compare_then Account.name Account.id

/-- Entries are sorted by time, and those of one time by identifier. -/
theorem ordersBy_timeLe : OrdersBy (·.id) LedgerEntry.timeLe :=
  .compare_then LedgerEntry.createdAt LedgerEntry.id

/-- Invoices are sorted from the newest, and those of one time by number. -/
theorem ordersBy_newestLe : OrdersBy (·.number) Invoice.newestLe :=
  (OrdersBy.compare_then Invoice.generatedAt Invoice.number).flip

/-! ## Filters -/

section Filter

variable {α κ : Type} {key : α → κ} {l : List α}

/-- The items that pass twice over. -/
theorem filter_and (p q : α → Bool) : (l.filter fun a => p a && q a) = (l.filter p).filter q := by
  rw [List.filter_filter]
  exact List.filter_congr fun a _ => Bool.and_comm ..

/-- Among some of the items, as among all, no two have one key. -/
theorem nodup_filter_key (hnodup : (l.map key).Nodup) (p : α → Bool) :
    ((l.filter p).map key).Nodup :=
  hnodup.sublist (List.filter_sublist.map key)

end Filter

/-! ## Searching by key -/

section Search

variable {α κ : Type} [DecidableEq κ] {key : α → κ} {k : κ} {l : List α}

/-- Where no two items have one key, a search by key finds the item that has it. -/
theorem find?_key_eq_some_iff {a : α} (hnodup : (l.map key).Nodup) :
    l.find? (fun b => key b = k) = some a ↔ a ∈ l ∧ key a = k := by
  constructor
  · intro hfind
    exact ⟨List.mem_of_find?_eq_some hfind, by simpa using List.find?_some hfind⟩
  · rintro ⟨ha, hkey⟩
    cases hfind : l.find? fun b => key b = k with
    | none => exact absurd hkey (by simpa using List.find?_eq_none.1 hfind a ha)
    | some b =>
      have hb : key b = k := by simpa using List.find?_some hfind
      have hmem := List.mem_of_find?_eq_some hfind
      exact congrArg some (List.inj_on_of_nodup_map hnodup hmem ha (hb.trans hkey.symm))

/-- The item with a key, if it passes, is the item with the key among those that pass. -/
theorem filter_find?_key (hnodup : (l.map key).Nodup) (p : α → Bool) :
    (l.find? fun a => key a = k).filter p = (l.filter p).find? fun a => key a = k := by
  refine Option.ext fun a => ?_
  rw [Option.filter_eq_some_iff, find?_key_eq_some_iff hnodup,
    find?_key_eq_some_iff (nodup_filter_key hnodup p), List.mem_filter, and_right_comm]

end Search

/-! ## The same items -/

/-- Two lists of the same items, in the same order where order counts. -/
structure SameItems {α : Type} (ordered : Bool) (l l' : List α) : Prop where
  perm : l.Perm l'
  order : ordered = true → l = l'

namespace SameItems

variable {α β κ : Type} {ordered : Bool} {l l' : List α}

theorem refl (l : List α) : SameItems ordered l l := ⟨.refl l, fun _ => rfl⟩

/-- What is made of the lists has the same items if it has them whatever the order. -/
theorem made (h : SameItems ordered l l') {f : List α → List β} (hperm : (f l).Perm (f l')) :
    SameItems ordered (f l) (f l') :=
  ⟨hperm, fun hordered => congrArg f (h.order hordered)⟩

theorem filter (h : SameItems ordered l l') (p : α → Bool) :
    SameItems ordered (l.filter p) (l'.filter p) :=
  h.made (h.perm.filter p)

theorem map (h : SameItems ordered l l') (f : α → β) : SameItems ordered (l.map f) (l'.map f) :=
  h.made (h.perm.map f)

theorem append (h : SameItems ordered l l') (added : List α) :
    SameItems ordered (l ++ added) (l' ++ added) :=
  h.made (f := (· ++ added)) (h.perm.append_right added)

theorem mem_iff (h : SameItems ordered l l') {a : α} : a ∈ l ↔ a ∈ l' := h.perm.mem_iff

theorem any_eq (h : SameItems ordered l l') (p : α → Bool) : l.any p = l'.any p := by
  rw [Bool.eq_iff_iff, List.any_eq_true, List.any_eq_true]
  simp only [h.mem_iff]

/-- **A search by key finds the same item.** -/
theorem find?_eq [DecidableEq κ] {key : α → κ} (h : SameItems ordered l l')
    (hnodup : (l.map key).Nodup) (k : κ) :
    (l.find? fun a => key a = k) = l'.find? fun a => key a = k := by
  have hnodup' : (l'.map key).Nodup := (h.perm.map key).nodup_iff.1 hnodup
  refine Option.ext fun a => ?_
  rw [find?_key_eq_some_iff hnodup, find?_key_eq_some_iff hnodup', h.mem_iff]

/-- **Sorting gives the same list.** -/
theorem mergeSort_eq {key : α → κ} {le : α → α → Bool} (h : SameItems ordered l l')
    (hle : OrdersBy key le) (hnodup : (l.map key).Nodup) : l.mergeSort le = l'.mergeSort le := by
  have hsorted := List.pairwise_mergeSort hle.trans hle.total l
  have hsorted' := List.pairwise_mergeSort hle.trans hle.total l'
  have hperm : (l.mergeSort le).Perm (l'.mergeSort le) :=
    (List.mergeSort_perm l le).trans (h.perm.trans (List.mergeSort_perm l' le).symm)
  refine List.Perm.eq_of_pairwise ?_ hsorted hsorted' hperm
  intro a b ha hb hab hba
  -- the order does not tell the two apart, so they have one key and are one item
  have ha : a ∈ l := (List.mergeSort_perm l le).mem_iff.1 ha
  have hb : b ∈ l := h.mem_iff.2 ((List.mergeSort_perm l' le).mem_iff.1 hb)
  exact List.inj_on_of_nodup_map hnodup ha hb (hle.key_eq a b hab hba)

end SameItems

end RideLedger
