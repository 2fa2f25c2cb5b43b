import RideLedger.Proofs.Isolation
import RideLedger.Proofs.Lookup

/-!
# Pages — a collection, read page by page

A request names a page and a size, and both are brought into range where they are used. The number
of items before a page, the items on it and the number of pages are computed apart from each other.
They agree: the pages up to one are the items before the next one (`take_append_slice`), and there
is a next one exactly if items are left for it (`Page.hasNext_turnTo_iff`). So a client that asks
for page after page, as long as there is a next one, reads every item once and in order
(`Page.walk_ofAll_iff`), and this is how the accounts and the invoices of a store are read.
-/

namespace RideLedger

variable {α : Type} {items : List α} {r : PageRequest} {page perPage : UInt32}

namespace PageRequest

/-- The request for another page of the same size. -/
def turnTo (r : PageRequest) (page : UInt32) : PageRequest := { r with page := page }

/-! ## Where a page begins -/

theorem limit_pos (r : PageRequest) : 0 < r.limit := Nat.le_max_left ..

theorem limit_le (r : PageRequest) : r.limit ≤ maxPageSize :=
  Nat.max_le.2 ⟨by decide, Nat.min_le_left ..⟩

theorem limit_turnTo : (r.turnTo page).limit = r.limit := rfl

/-- A request that was brought into range beforehand asks for the same page. -/
theorem ofAll_new (items : List α) (page perPage : UInt32) :
    Page.ofAll items (new page perPage) = Page.ofAll items ⟨page, perPage⟩ := by
  have hlimit : (new page perPage).limit = (PageRequest.mk page perPage).limit := by
    have hle := limit_le ⟨page, perPage⟩
    have hpos := limit_pos ⟨page, perPage⟩
    have hbits : maxPageSize < UInt32.size := by decide
    simp only [limit, new, clamp] at *
    rw [UInt32.toNat_ofNat_of_lt' (by omega)]
    omega
  have hnumber : (new page perPage).number = (PageRequest.mk page perPage).number := by
    simp only [number, new, UInt32.toNat_max]
    exact Nat.max_eq_left (Nat.le_max_right ..)
  simp only [Page.ofAll, Page.new, slice, offset, hlimit, hnumber]

/-- **What comes before a page can be counted in 64 bits.** -/
theorem offset_lt (r : PageRequest) : r.offset < 2 ^ 64 := by
  have hpage : r.number - 1 ≤ 2 ^ 32 := by
    have := r.page.toNat_lt
    unfold number
    omega
  calc r.offset ≤ 2 ^ 32 * maxPageSize := Nat.mul_le_mul hpage r.limit_le
    _ < 2 ^ 64 := by decide

/-- The pages before a page are full. -/
theorem offset_turnTo {k : Nat} (h : k + 1 < 2 ^ 32) :
    (r.turnTo (.ofNat (k + 1))).offset = k * r.limit := by
  rw [offset, limit_turnTo, number, turnTo, UInt32.toNat_ofNat_of_lt' h,
    Nat.max_eq_left (Nat.le_add_left ..), Nat.add_sub_cancel]

/-- A page without items lies behind them all. -/
theorem slice_eq_nil_iff : r.slice items = [] ↔ items.length ≤ r.offset := by
  rw [slice, List.take_eq_nil_iff, List.drop_eq_nil_iff, or_iff_right r.limit_pos.ne']

/-- **The items of a page follow those of the pages before it.** -/
theorem take_append_slice {k : Nat} (h : k + 1 < 2 ^ 32) :
    items.take (k * r.limit) ++ (r.turnTo (.ofNat (k + 1))).slice items =
      items.take ((k + 1) * r.limit) := by
  rw [slice, offset_turnTo h, limit_turnTo, Nat.succ_mul, List.take_add]

/-- So the first pages are the first items. -/
theorem flatMap_slice {count : Nat} (h : count < 2 ^ 32) :
    (List.range' 1 count).flatMap (fun p => (r.turnTo (.ofNat p)).slice items) =
      items.take (count * r.limit) := by
  induction count with
  | zero => simp
  | succ k ih =>
    rw [List.range'_1_concat, List.flatMap_append, ih (Nat.lt_of_succ_lt h), List.flatMap_singleton,
      Nat.add_comm 1 k, take_append_slice h]

end PageRequest

open PageRequest

/-! ## How many pages there are -/

namespace Page

/-- There is a page for every `limit` items that are begun, and one if there are none. -/
theorem totalPages_ofAll (h : items.length < 2 ^ 32) :
    (ofAll items r).totalPages = max 1 ((items.length + r.limit - 1) / r.limit) := by
  have hpos := r.limit_pos
  have htotal : (ofAll items r).totalPages =
      if items.length = 0 then 1
      else min ((items.length + r.limit - 1) / r.limit) (2 ^ 32 - 1) := by
    rw [totalPages, ofAll, new, Nat.max_eq_left hpos]
  rw [htotal]
  split
  · next hnone =>
    rw [hnone, Nat.zero_add, Nat.div_eq_of_lt (by omega)]
    rfl
  · have hfirst : 1 ≤ (items.length + r.limit - 1) / r.limit :=
      (Nat.le_div_iff_mul_le hpos).2 (by omega)
    have hcount : (items.length + r.limit - 1) / r.limit < items.length + 1 := by
      have := Nat.le_mul_of_pos_right items.length hpos
      rw [Nat.div_lt_iff_lt_mul hpos, Nat.succ_mul]
      omega
    rw [Nat.min_eq_left (by omega), Nat.max_eq_right hfirst]

/-- **There are more pages than some exactly if those do not hold all items.** -/
theorem lt_totalPages_iff (h : items.length < 2 ^ 32) {k : Nat} (hk : 1 ≤ k) :
    k < (ofAll items r).totalPages ↔ k * r.limit < items.length := by
  have hpos := r.limit_pos
  have hbegun (count : Nat) : k < max 1 count ↔ k + 1 ≤ count := by omega
  rw [totalPages_ofAll h, hbegun, Nat.le_div_iff_mul_le hpos, Nat.succ_mul]
  omega

/-- There is always a first page. -/
theorem totalPages_pos (p : Page α) : 0 < p.totalPages := by
  rw [totalPages]
  split
  · exact Nat.one_pos
  · have hdiv : 0 < (p.total + max p.perPage 1 - 1) / max p.perPage 1 :=
      Nat.div_pos (by omega) (by omega)
    omega

/-- The number of the last page has 32 bits. -/
theorem totalPages_lt (p : Page α) : p.totalPages < 2 ^ 32 := by
  unfold totalPages
  split <;> omega

/-- All items are on the pages. -/
theorem length_le_totalPages_mul (h : items.length < 2 ^ 32) :
    items.length ≤ (ofAll items r).totalPages * r.limit :=
  Nat.not_lt.1 fun hlt =>
    absurd ((lt_totalPages_iff h (totalPages_pos _)).2 hlt) (Nat.lt_irrefl _)

theorem hasNext_turnTo (hpage : 1 ≤ page.toNat) :
    (ofAll items (r.turnTo page)).hasNext = true ↔
      page.toNat < (ofAll items r).totalPages := by
  have hnumber : (ofAll items (r.turnTo page)).page = page.toNat := Nat.max_eq_left hpage
  rw [hasNext, decide_eq_true_iff, hnumber]
  rfl

/-- **There is a next page exactly if it has items.** -/
theorem hasNext_turnTo_iff (h : items.length < 2 ^ 32) (hpage : 1 ≤ page.toNat)
    (hlast : page.toNat < 2 ^ 32 - 1) :
    (ofAll items (r.turnTo page)).hasNext = true ↔ (r.turnTo (page + 1)).slice items ≠ [] := by
  have hnext : page + 1 = .ofNat (page.toNat + 1) := by
    rw [UInt32.ofNat_add, UInt32.ofNat_toNat]
    rfl
  rw [hasNext_turnTo hpage, lt_totalPages_iff h hpage, ne_eq, slice_eq_nil_iff, Nat.not_le, hnext,
    offset_turnTo (by omega)]

end Page

/-! ## Reading page by page -/

/-- How the pages of a request's size cut a collection up. -/
structure PageRequest.Partitions (r : PageRequest) (items : List α) : Prop where
  /-- Together the pages are the collection, in its order. -/
  whole : (List.range' 1 (Page.ofAll items r).totalPages).flatMap
    (fun p => (r.turnTo (.ofNat p)).slice items) = items
  zeroth : Page.ofAll items (r.turnTo 0) = Page.ofAll items (r.turnTo 1)
  beyond : ∀ page : UInt32, (Page.ofAll items r).totalPages < page.toNat →
    (r.turnTo page).slice items = []
  next : ∀ page : UInt32, 1 ≤ page → page < 0xFFFFFFFF →
    ((Page.ofAll items (r.turnTo page)).hasNext = true ↔ (r.turnTo (page + 1)).slice items ≠ [])

/-- **The pages of every size partition a collection.** -/
theorem PageRequest.partitions (h : items.length < 2 ^ 32) (r : PageRequest) :
    r.Partitions items where
  whole := by
    rw [flatMap_slice (Page.totalPages_lt _)]
    exact List.take_of_length_le (Page.length_le_totalPages_mul h)
  zeroth := rfl
  beyond page hpage := by
    have hall := Page.length_le_totalPages_mul (r := r) h
    have hbefore : (Page.ofAll items r).totalPages ≤ (r.turnTo page).number - 1 := by
      have : page.toNat ≤ (r.turnTo page).number := Nat.le_max_left ..
      omega
    rw [slice_eq_nil_iff]
    exact hall.trans (Nat.mul_le_mul_right _ hbefore)
  next page hfirst hlast := Page.hasNext_turnTo_iff h hfirst hlast

/-- What a client reads that asks for a page, and for the next one as long as there is one. -/
inductive Page.Walk (fetch : PageRequest → Page α) (r : PageRequest) : UInt32 → List α → Prop
  | last {page : UInt32} (done : (fetch (r.turnTo page)).hasNext = false) :
      Walk fetch r page (fetch (r.turnTo page)).items
  | next {page : UInt32} {rest : List α} (more : (fetch (r.turnTo page)).hasNext = true)
      (others : Walk fetch r (page + 1) rest) :
      Walk fetch r page ((fetch (r.turnTo page)).items ++ rest)

namespace Page

/-- The answers decide what is read. -/
theorem Walk.unique {fetch : PageRequest → Page α} {got got' : List α}
    (h : Walk fetch r page got) (h' : Walk fetch r page got') : got = got' := by
  induction h generalizing got' with
  | last done =>
    cases h' with
    | last => rfl
    | next more => rw [more] at done; cases done
  | next more others ih =>
    cases h' with
    | last done => rw [done] at more; cases more
    | next _ others' => rw [ih others']

/-- The items of a page, and whether there is a next one. -/
theorem ofAll_turnTo (items : List α) (r : PageRequest) {k : Nat} (hk : k + 1 < 2 ^ 32) :
    (ofAll items (r.turnTo (.ofNat (k + 1)))).items = (items.drop (k * r.limit)).take r.limit ∧
    ((ofAll items (r.turnTo (.ofNat (k + 1)))).hasNext = true ↔
      k + 1 < (ofAll items r).totalPages) := by
  have hpage : (UInt32.ofNat (k + 1)).toNat = k + 1 := UInt32.toNat_ofNat_of_lt' hk
  refine ⟨by rw [ofAll, new, slice, offset_turnTo hk, limit_turnTo], ?_⟩
  rw [hasNext_turnTo (by omega), hpage]

/-- From a page on, what is left of the items is read. -/
theorem walk_from (h : items.length < 2 ^ 32) {k left : Nat}
    (hleft : k + 1 + left = (ofAll items r).totalPages) :
    Walk (ofAll items) r (.ofNat (k + 1)) (items.drop (k * r.limit)) := by
  have hbits := totalPages_lt (ofAll items r)
  -- by induction on the pages that are left
  induction left generalizing k with
  | zero =>
    obtain ⟨hitems, hmore⟩ := ofAll_turnTo items r (show k + 1 < 2 ^ 32 by omega)
    have hall := length_le_totalPages_mul (r := r) h
    rw [← hleft, Nat.add_zero, Nat.succ_mul] at hall
    have hrest : (items.drop (k * r.limit)).take r.limit = items.drop (k * r.limit) := by
      refine List.take_of_length_le ?_
      rw [List.length_drop]
      omega
    rw [← hrest, ← hitems]
    exact .last (Bool.eq_false_iff.2 fun hnext => absurd (hmore.1 hnext) (by omega))
  | succ left ih =>
    obtain ⟨hitems, hmore⟩ := ofAll_turnTo items r (show k + 1 < 2 ^ 32 by omega)
    have hothers := ih (k := k + 1) (by omega)
    have hnext : UInt32.ofNat (k + 1) + 1 = .ofNat (k + 1 + 1) := (UInt32.ofNat_add ..).symm
    rw [← hnext, Nat.succ_mul, ← List.drop_drop] at hothers
    rw [← List.take_append_drop r.limit (items.drop (k * r.limit)), ← hitems]
    exact .next (hmore.2 (by omega)) hothers

/-- **A client that asks for page after page reads every item, in order.** -/
theorem walk_ofAll_iff (h : items.length < 2 ^ 32) {got : List α} :
    Walk (ofAll items) r 1 got ↔ got = items := by
  have hpages : 1 ≤ (ofAll items r).totalPages := totalPages_ofAll h ▸ Nat.le_max_left ..
  have hwalk : Walk (ofAll items) r 1 items := by
    have hfirst := walk_from (r := r) (k := 0) h (Nat.add_sub_cancel' hpages)
    rwa [Nat.zero_mul, List.drop_zero] at hfirst
  exact ⟨fun hgot => hgot.unique hwalk, fun heq => heq ▸ hwalk⟩

end Page

/-! ## Listings of a store -/

namespace MemoryStore

variable {s : MemoryStore} {ctx : RequestContext} {account : AccountId}

/-- What a client reads of a tenant's accounts: each of them once, by name and then by
identifier, whatever the size of the pages. -/
structure ListsAccounts (s : MemoryStore) (ctx : RequestContext) (listing : List Account) :
    Prop where
  walk : ∀ (r : PageRequest) (got : List Account),
    Page.Walk (s.listAccounts ctx) r 1 got ↔ got = listing
  perm : listing.Perm (s.accounts.filter fun a => a.tenant = ctx.tenant)
  nodup : (listing.map (·.id)).Nodup
  sorted : listing.Pairwise fun a b => (compare a.name b.name).then (compare a.id b.id) = .lt

/-- What a client reads of an account's invoices: each of them once, from the newest. -/
structure ListsInvoices (s : MemoryStore) (ctx : RequestContext) (account : AccountId)
    (listing : List Invoice) : Prop where
  walk : ∀ (r : PageRequest) (got : List Invoice),
    Page.Walk (s.listInvoices ctx account) r 1 got ↔ got = listing
  perm : listing.Perm
    (s.invoices.values.filter fun i => i.tenant = ctx.tenant && i.account = account)
  nodup : (listing.map (·.id)).Nodup
  sorted : listing.Pairwise fun i j =>
    (compare j.generatedAt i.generatedAt).then (compare j.number i.number) = .lt

/-- **Page by page, the accounts of a tenant are read.** -/
theorem Proper.exists_listsAccounts (hs : s.Proper)
    (hcount : (s.accounts.filter fun a => a.tenant = ctx.tenant).length < 2 ^ 32) :
    ∃ listing, s.ListsAccounts ctx listing := by
  let own := s.accounts.filter fun a => a.tenant = ctx.tenant
  have hnodup : (own.map (·.id)).Nodup := hs.view_accounts_nodup
  have hperm : (own.mergeSort nameLe).Perm own := List.mergeSort_perm ..
  exact ⟨own.mergeSort nameLe, {
    walk _ _ := Page.walk_ofAll_iff (hperm.length_eq ▸ hcount)
    perm := hperm
    nodup := (hperm.map _).nodup_iff.2 hnodup
    sorted := OrdersBy.mergeSort_strict (compareLex (compareOn Account.name) (compareOn Account.id))
      (fun _ _ => OrdersBy.key_eq_of_compareLex) hnodup }⟩

/-- **And so are the invoices of an account.** -/
theorem Proper.exists_listsInvoices (hs : s.Proper)
    (hcount : (s.invoices.values.filter fun i =>
      i.tenant = ctx.tenant && i.account = account).length < 2 ^ 32) :
    ∃ listing, s.ListsInvoices ctx account listing := by
  let own := s.invoices.values.filter fun i => i.tenant = ctx.tenant && i.account = account
  have hown : own = ((s.view ctx.tenant).invoices.filter fun i => i.account = account) :=
    filter_and _ _
  have hperm : (own.mergeSort Invoice.newestLe).Perm own := List.mergeSort_perm ..
  have hids : (own.map (·.id)).Nodup := hown ▸ nodup_filter_key hs.view_invoices_nodup _
  have hnumbers : (own.map (·.number)).Nodup := hown ▸ nodup_filter_key hs.view_numbers_nodup _
  exact ⟨own.mergeSort Invoice.newestLe, {
    walk _ _ := Page.walk_ofAll_iff (hperm.length_eq ▸ hcount)
    perm := hperm
    nodup := (hperm.map _).nodup_iff.2 hids
    sorted := OrdersBy.mergeSort_strict
      (fun i j => compareLex (compareOn Invoice.generatedAt) (compareOn Invoice.number) j i)
      (fun _ _ heq => (OrdersBy.key_eq_of_compareLex heq).symm) hnumbers }⟩

end MemoryStore

/-- **Pages partition what they are cut from.** The pages of a request's size, as many as their
answer says, are the items in their order; page zero is the first page; every later page is empty;
a page says that there is a next one exactly if that one has items; and what comes before a page is
counted in 64 bits. So in every store that clients bring about from the empty one, a client that
asks for page after page reads every account of the tenant once, by name and identifier, and every
invoice of an account once. -/
theorem pages_partition {items : List α} (h : items.length < 2 ^ 32) (r : PageRequest)
    {ι β : Type} [DecidableEq ι] {e : ι → Surroundings} {others : StoreRequest → Prop}
    {rest : ι → Plan β} {σ : System ι β} (run : System.Run e others ⟨.empty, rest⟩ σ)
    (ctx : RequestContext) (account : AccountId) :
    r.Partitions items ∧
    Page.ofAll items (.new r.page r.perPage) = Page.ofAll items r ∧
    r.offset < 2 ^ 64 ∧
    ((σ.store.accounts.filter fun a => a.tenant = ctx.tenant).length < 2 ^ 32 →
      ∃ listing, σ.store.ListsAccounts ctx listing) ∧
    ((σ.store.invoices.values.filter fun i =>
        i.tenant = ctx.tenant && i.account = account).length < 2 ^ 32 →
      ∃ listing, σ.store.ListsInvoices ctx account listing) := by
  have hproper := run.proper MemoryStore.proper_empty
  exact ⟨r.partitions h, ofAll_new items r.page r.perPage, r.offset_lt,
    hproper.exists_listsAccounts, hproper.exists_listsInvoices⟩

/-- Five items, two on a page, and the account and the invoices of March, one on a page. -/
theorem pages_partition_march :
    PageRequest.Partitions ⟨0, 2⟩ [1, 2, 3, 4, 5] ∧
    (∃ got, Page.Walk (billedMarch.1.store.listAccounts Sample.operator) ⟨0, 1⟩ 1 got ∧
      got.length = 1) ∧
    ∃ got, Page.Walk (billedMarch.1.store.listInvoices Sample.operator MemoryStore.firstAccount)
        ⟨0, 1⟩ 1 got ∧
      got.length = 2 := by
  have hread {outcome : Quiet × (Nat → Plan Unit)}
      (run : System.Run (fun _ => .still MemoryStore.beforeAll.now) (fun _ => False)
        ⟨.empty, callers⟩ ⟨outcome.1.store, outcome.2⟩)
      (haccounts : (outcome.1.store.accounts.filter fun a =>
        a.tenant = Sample.operator.tenant).length = 1)
      (hinvoices : (outcome.1.store.invoices.values.filter fun i =>
        i.tenant = Sample.operator.tenant && i.account = MemoryStore.firstAccount).length = 2) :
      PageRequest.Partitions ⟨0, 2⟩ [1, 2, 3, 4, 5] ∧
      (∃ got, Page.Walk (outcome.1.store.listAccounts Sample.operator) ⟨0, 1⟩ 1 got ∧
        got.length = 1) ∧
      ∃ got, Page.Walk (outcome.1.store.listInvoices Sample.operator MemoryStore.firstAccount)
          ⟨0, 1⟩ 1 got ∧
        got.length = 2 := by
    have hfive : [1, 2, 3, 4, 5].length < 2 ^ 32 := by decide
    obtain ⟨hpages, -, -, hofAccounts, hofInvoices⟩ :=
      pages_partition hfive ⟨0, 2⟩ run Sample.operator MemoryStore.firstAccount
    obtain ⟨accounts, ha⟩ := hofAccounts (haccounts.trans_lt (by decide))
    obtain ⟨invoices, hi⟩ := hofInvoices (hinvoices.trans_lt (by decide))
    exact ⟨hpages, ⟨accounts, (ha.walk _ _).2 rfl, ha.perm.length_eq.trans haccounts⟩,
      invoices, (hi.walk _ _).2 rfl, hi.perm.length_eq.trans hinvoices⟩
  exact hread (MemoryStore.beforeAll.run_play callers marchTurns) (by decide +kernel)
    (by decide +kernel)

end RideLedger
