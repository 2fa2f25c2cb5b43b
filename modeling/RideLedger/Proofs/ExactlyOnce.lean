import RideLedger.Proofs.Appending
import RideLedger.Proofs.Journal
import RideLedger.Proofs.Posting

/-!
# Exactly once — clients that append side by side

Any number of clients append transactions to one store, in steps that interleave in any order with
each other and with everything else that happens to the store. Each looks at the account and at the
key first, but nothing depends on what it saw: the store looks again when it writes, and a run is
decided by the order in which the appends go through (`Posted`). In that order, the entries of the
clients that got through are exactly the entries that were added, and their events exactly the
keys.
-/

namespace RideLedger

/-- A request that appends nothing. -/
def StoreRequest.AppendsNothing : StoreRequest → Prop
  | .appendTransaction .. => False
  | _ => True

namespace MemoryStore

variable {cancelled : Bool} {request : StoreRequest} {s s' : MemoryStore}

/-- A request that appends nothing leaves the ledger as it is. -/
theorem Commit.ledger_eq (h : Commit cancelled s request s') (hnothing : request.AppendsNothing) :
    s'.entries = s.entries ∧ s'.keys = s.keys := by
  cases h with
  | posted => exact hnothing.elim
  | halfPosted => exact hnothing.elim
  | _ => exact ⟨rfl, rfl⟩

end MemoryStore

/-! ## Clients -/

/-- What a client of the ledger has to append, and in which context. -/
structure Posting where
  ctx : RequestContext
  transaction : LedgerTransaction

namespace Posting

variable (c : Posting)

/-- The event that the client records. -/
def event : TenantId × TransactionKey := (c.transaction.tenant, c.transaction.key)

/-- The entries that the client brings, as the store files them. -/
def items : List (EntryId × LedgerEntry) := MemoryStore.filedPair c.transaction

/-- What the client does. -/
def plan : Plan (Except BillingError TransactionId) := (Ledger.append c.ctx c.transaction).run

/-- A client whose transaction was put together from two entries of different identifiers. -/
structure WellFormed : Prop where
  accepted : ∃ id first second, (LedgerTransaction.new id first second).Gives c.transaction
  distinct : c.transaction.debit.id ≠ c.transaction.credit.id

end Posting

variable {ι : Type} [DecidableEq ι] {e : ι → Surroundings} {clients : ι → Posting}
  {start : MemoryStore} {σ σ' : System ι (Except BillingError TransactionId)} {order : List ι}

/-- A client got through. -/
def System.GotOk (σ : System ι (Except BillingError TransactionId)) (i : ι) : Prop :=
  ∃ id, σ.rest i = .done (.ok id)

/-- **The clients that got through, in the order in which they did.** What was added to the ledger
is theirs, no more and no less, and new each time. -/
structure Posted (clients : ι → Posting) (start : MemoryStore) (order : List ι)
    (σ : System ι (Except BillingError TransactionId)) : Prop where
  ok : ∀ i ∈ order, σ.rest i = .done (.ok (clients i).transaction.id)
  unposted : ∀ i ∉ order,
    Ledger.Unposted (clients i).ctx (clients i).transaction (σ.rest i)
  entries : σ.store.entries.items = start.entries.items ++ order.flatMap fun i => (clients i).items
  keys : σ.store.keys = start.keys ++ order.map fun i => (clients i).event
  new_entries : (order.flatMap fun i => (clients i).items.map (·.1)).Nodup ∧
    ∀ i ∈ order, ∀ id ∈ (clients i).items.map (·.1), id ∉ start.entries.keys
  new_keys : (order.map fun i => (clients i).event).Nodup ∧
    ∀ i ∈ order, (clients i).event ∉ start.keys

namespace Posted

omit [DecidableEq ι] in
/-- A client got through when it is one of them. -/
theorem gotOk_iff (h : Posted clients start order σ) {i : ι} : σ.GotOk i ↔ i ∈ order := by
  constructor
  · rintro ⟨id, hok⟩
    by_contra hi
    have hunposted := h.unposted i hi
    rw [hok] at hunposted
    obtain ⟨x, hx⟩ := hunposted
    cases hx
  · exact fun hi => ⟨_, h.ok i hi⟩

omit [DecidableEq ι] in
/-- At the start, nobody got through. -/
theorem initially : Posted clients start [] ⟨start, fun i => (clients i).plan⟩ where
  ok i hi := absurd hi List.not_mem_nil
  unposted i _ := Ledger.unposted_append
  entries := by simp
  keys := by simp
  new_entries := by simp
  new_keys := by simp

omit [DecidableEq ι] in
/-- Everything else leaves the order as it is. -/
theorem of_ledger_eq (h : Posted clients start order σ)
    (hentries : σ'.store.entries = σ.store.entries) (hkeys : σ'.store.keys = σ.store.keys)
    (hok : ∀ i ∈ order, σ'.rest i = σ.rest i)
    (hunposted : ∀ i ∉ order,
      Ledger.Unposted (clients i).ctx (clients i).transaction (σ'.rest i)) :
    Posted clients start order σ' where
  ok i hi := (hok i hi).trans (h.ok i hi)
  unposted := hunposted
  entries := hentries ▸ h.entries
  keys := hkeys.trans h.keys
  new_entries := h.new_entries
  new_keys := h.new_keys

omit [DecidableEq ι] in
/-- Entries that the store does not have are new beside those of the clients before. -/
theorem newEntries_append (h : Posted clients start order σ) {i : ι}
    (hown : ((clients i).items.map (·.1)).Nodup)
    (hnew : ∀ id ∈ (clients i).items.map (·.1), id ∉ σ.store.entries.keys) :
    ((order ++ [i]).flatMap fun i => (clients i).items.map (·.1)).Nodup ∧
      ∀ j ∈ order ++ [i], ∀ id ∈ (clients j).items.map (·.1), id ∉ start.entries.keys := by
  have hkeys : σ.store.entries.keys =
      start.entries.keys ++ order.flatMap fun i => (clients i).items.map (·.1) := by
    rw [WriteOnce.keys, h.entries, List.map_append, List.map_flatMap]
    rfl
  rw [hkeys] at hnew
  refine ⟨?_, fun j hj => ?_⟩
  · rw [List.flatMap_append, List.flatMap_singleton]
    exact MemoryStore.nodup_append_of_new h.new_entries.1 hown fun id hid hmem =>
      hnew id hid (List.mem_append_right _ hmem)
  · rcases List.mem_append.1 hj with hj | hj
    · exact h.new_entries.2 j hj
    · rw [List.mem_singleton.1 hj]
      exact fun id hid hmem => hnew id hid (List.mem_append_left _ hmem)

omit [DecidableEq ι] in
/-- An event that the store does not have is new beside those of the clients before. -/
theorem newKeys_append (h : Posted clients start order σ) {i : ι}
    (hevent : (clients i).event ∉ σ.store.keys) :
    ((order ++ [i]).map fun i => (clients i).event).Nodup ∧
      ∀ j ∈ order ++ [i], (clients j).event ∉ start.keys := by
  rw [h.keys] at hevent
  refine ⟨?_, fun j hj => ?_⟩
  · rw [List.map_append, List.map_singleton]
    exact MemoryStore.nodup_append_of_new h.new_keys.1 (List.nodup_singleton _) fun key hkey hmem =>
      hevent (List.mem_append_right _ (List.mem_singleton.1 hkey ▸ hmem))
  · rcases List.mem_append.1 hj with hj | hj
    · exact h.new_keys.2 j hj
    · rw [List.mem_singleton.1 hj]
      exact fun hmem => hevent (List.mem_append_left _ hmem)

/-- The next client gets through. -/
theorem append (h : Posted clients start order σ) {i : ι}
    (hdistinct : (clients i).transaction.debit.id ≠ (clients i).transaction.credit.id)
    {cancelled : Bool} {event : EventId}
    (hadmits : σ.store.Admits cancelled (clients i).ctx (clients i).transaction)
    (hstore : σ'.store = σ.store.posted (clients i).ctx (clients i).transaction event)
    (hrest : σ'.rest =
      Function.update σ.rest i (.done (.ok (clients i).transaction.id))) :
    Posted clients start (order ++ [i]) σ' := by
  have hown : ((clients i).items.map (·.1)).Nodup := by
    simpa [Posting.items, MemoryStore.filedPair] using hdistinct
  have hnew : ∀ id ∈ (clients i).items.map (·.1), id ∉ σ.store.entries.keys := by
    simpa [Posting.items, MemoryStore.filedPair] using ⟨hadmits.debit, hadmits.credit⟩
  have hevent : (clients i).event ∉ σ.store.keys := by
    rw [Posting.event, hadmits.tenant]
    exact hadmits.key
  refine
    { ok := fun j hj => ?_, unposted := fun j hj => ?_, entries := ?_, keys := ?_
      new_entries := h.newEntries_append hown hnew, new_keys := h.newKeys_append hevent }
  · rw [hrest]
    by_cases hji : j = i
    · subst hji
      simp
    · have hj' : j ∈ order := by simpa [hji] using hj
      simpa [hji] using h.ok j hj'
  · have hj' : j ∉ order ∧ j ≠ i := by simpa using hj
    rw [hrest, Function.update_of_ne hj'.2]
    exact h.unposted j hj'.1
  · rw [hstore, MemoryStore.posted, WriteOnce.extend_items, h.entries]
    simp [Posting.items, MemoryStore.filedPair]
  · rw [hstore, MemoryStore.posted, h.keys, ← hadmits.tenant]
    simp [Posting.event]

/-- **One step**: it leaves the order as it is, or the next client gets through. -/
theorem step (hwell : ∀ i, (clients i).WellFormed) (h : Posted clients start order σ)
    (taken : System.Step e StoreRequest.AppendsNothing σ σ') :
    (Posted clients start order σ' ∧ σ'.store.entries = σ.store.entries) ∨
      ∃ i, Posted clients start (order ++ [i]) σ' ∧ ∃ cancelled event,
        σ.store.Admits cancelled (clients i).ctx (clients i).transaction ∧
        σ'.store = σ.store.posted (clients i).ctx (clients i).transaction event := by
  cases taken with
  | @client p s i taken =>
    by_cases hi : i ∈ order
    · -- it is done and takes no step
      rw [h.ok i hi] at taken
      cases taken
    rcases Ledger.unposted_step (hwell i).distinct (h.unposted i hi) taken with
      ⟨hp, hentries, hkeys⟩ | ⟨rfl, cancelled, event, hadmits, hstore⟩
    · refine .inl ⟨h.of_ledger_eq hentries hkeys (fun j hj => ?_) ?_, hentries⟩
      · have hji : j ≠ i := fun hji => hi (hji ▸ hj)
        exact Function.update_of_ne hji ..
      · rw [Function.forall_update_iff σ.rest fun j q =>
          j ∉ order → Ledger.Unposted (clients j).ctx (clients j).transaction q]
        exact ⟨fun _ => hp, fun j _ => h.unposted j⟩
    · exact .inr ⟨i, h.append (hwell i).distinct hadmits hstore rfl, cancelled, event, hadmits,
        hstore⟩
  | other allowed served =>
    obtain ⟨hentries, hkeys⟩ := (MemoryStore.commit_of_serve served).ledger_eq allowed
    exact .inl ⟨h.of_ledger_eq hentries hkeys (fun _ _ => rfl) h.unposted, hentries⟩

/-- **A whole run**: by induction on its steps. -/
theorem run (hwell : ∀ i, (clients i).WellFormed) (h : Posted clients start order σ)
    (run : System.Run e StoreRequest.AppendsNothing σ σ') :
    ∃ later, Posted clients start (order ++ later) σ' := by
  induction run with
  | refl => exact ⟨[], by simpa using h⟩
  | tail _ taken ih =>
    obtain ⟨later, hlater⟩ := ih
    rcases hlater.step hwell taken with ⟨hstep, -⟩ | ⟨i, hstep, -⟩
    · exact ⟨later, hstep⟩
    · exact ⟨later ++ [i], by simpa using hstep⟩

end Posted

/-! ## Posting exactly once -/

/-- A duplicate that a client reports is one. -/
theorem System.Run.reports (run : System.Run e StoreRequest.AppendsNothing
      ⟨start, fun i => (clients i).plan⟩ σ) {i : ι} {x : BillingError}
    (hi : σ.rest i = .done (.error x)) (hx : x.IsDuplicate) :
    (clients i).event ∈ σ.store.keys := by
  have hstart : System.Disciplined MemoryStore.growing e
      (fun i => Ends Whatever fun x s => x.IsDuplicate → (clients i).event ∈ s.keys)
      ⟨start, fun i => (clients i).plan⟩ :=
    { inv := trivial, meets := fun i => Ledger.append_reports }
  exact (run.disciplined (fun _ _ _ _ => trivial) hstart).1.done hi hx

/-- What side-by-side appends come to, after any of their steps. -/
structure PostedOnce (e : ι → Surroundings) (clients : ι → Posting) (start : MemoryStore)
    (σ : System ι (Except BillingError TransactionId)) : Prop where
  /-- The entries that were added are those of the clients that got through, each client's once,
  and no two of them have one identifier. -/
  entries : ∃ order : List ι, order.Nodup ∧ (∀ i, i ∈ order ↔ σ.GotOk i) ∧
    σ.store.entries.items = start.entries.items ++ order.flatMap (fun i => (clients i).items) ∧
    (order.flatMap fun i => (clients i).items.map (·.1)).Nodup ∧
    ∀ i ∈ order, ∀ id ∈ (clients i).items.map (·.1), id ∉ start.entries.keys
  /-- Of the clients that record one event, at most one gets through. -/
  once : ∀ i j, σ.GotOk i → σ.GotOk j → (clients i).event = (clients j).event → i = j
  /-- A client is told of a duplicate only when the event was recorded, before or by another
  client. -/
  duplicate : ∀ i x, σ.rest i = .done (.error x) → x.IsDuplicate →
    (clients i).event ∈ start.keys ∨ ∃ j, σ.GotOk j ∧ (clients j).event = (clients i).event
  /-- Once an event is recorded, no other client gets through with it. -/
  closed : ∀ i, (clients i).event ∈ σ.store.keys → ¬σ.GotOk i →
    ∀ σ', System.Run e StoreRequest.AppendsNothing σ σ' → ¬σ'.GotOk i
  /-- Nothing is posted to an account while it is not there or not active. -/
  live : ∀ σ', System.Step e StoreRequest.AppendsNothing σ σ' →
    ∀ item ∈ σ'.store.entries.items, item ∉ σ.store.entries.items →
      ∃ account, σ.store.account? item.2.tenant item.2.account = some account ∧
        account.status = .active

/-- The entries that an admitted transaction adds are of an active account. -/
theorem Posting.active_of_admits {c : Posting} (hwell : c.WellFormed) {cancelled : Bool}
    {s : MemoryStore} (hadmits : s.Admits cancelled c.ctx c.transaction) :
    ∀ item ∈ c.items, ∃ account, s.account? item.2.tenant item.2.account = some account ∧
      account.status = .active := by
  obtain ⟨id, first, second, hnew⟩ := hwell.accepted
  have hmatched := (LedgerTransaction.new_gives hnew).2.2
  obtain ⟨account, haccount, hreceive⟩ := hadmits.account
  have hactive : account.status = .active := of_decide_eq_true hreceive
  rw [← hadmits.tenant] at haccount
  intro item hitem
  refine ⟨account, ?_, hactive⟩
  rcases List.mem_pair.1 hitem with rfl | rfl
  · exact haccount
  · rw [← hmatched.tenant, ← hmatched.account]
    exact haccount

/-- **Posting happens exactly once, in whatever order the clients take their steps.** -/
theorem postedOnce_of_run (hwell : ∀ i, (clients i).WellFormed)
    (run : System.Run e StoreRequest.AppendsNothing ⟨start, fun i => (clients i).plan⟩ σ) :
    PostedOnce e clients start σ := by
  obtain ⟨order, hposted⟩ := Posted.initially.run hwell run
  rw [List.nil_append] at hposted
  have hevents {i j : ι} (hi : i ∈ order) (hj : j ∈ order)
      (heq : (clients i).event = (clients j).event) : i = j :=
    List.inj_on_of_nodup_map hposted.new_keys.1 hi hj heq
  refine
    { entries := ⟨order, hposted.new_keys.1.of_map _, fun i => hposted.gotOk_iff.symm,
        hposted.entries, hposted.new_entries⟩
      once := fun i j hi hj heq => hevents (hposted.gotOk_iff.1 hi) (hposted.gotOk_iff.1 hj) heq
      duplicate := fun i x hi hx => ?_
      closed := fun i hkey hnot σ' later hok => ?_
      live := fun σ' taken item hitem hnew => ?_ }
  · have hkey := run.reports hi hx
    rw [hposted.keys] at hkey
    rcases List.mem_append.1 hkey with hkey | hkey
    · exact .inl hkey
    · obtain ⟨j, hj, hevent⟩ := List.mem_map.1 hkey
      exact .inr ⟨j, hposted.gotOk_iff.2 hj, hevent⟩
  · -- the event is an earlier one than the client's, and events are recorded once
    obtain ⟨more, hmore⟩ := hposted.run hwell later
    have hi : i ∈ order ++ more := hmore.gotOk_iff.1 hok
    rw [hposted.keys] at hkey
    rcases List.mem_append.1 hkey with hkey | hkey
    · exact hmore.new_keys.2 i hi hkey
    · obtain ⟨j, hj, hevent⟩ := List.mem_map.1 hkey
      have hji : j = i :=
        List.inj_on_of_nodup_map hmore.new_keys.1 (List.mem_append_left _ hj) hi hevent
      exact hnot (hposted.gotOk_iff.2 (hji ▸ hj))
  · rcases hposted.step hwell taken with ⟨-, hsame⟩ | ⟨i, -, cancelled, event, hadmits, hstore⟩
    · exact absurd (hsame ▸ hitem) hnew
    · rw [hstore, MemoryStore.posted, WriteOnce.extend_items] at hitem
      have hadded : item ∈ (clients i).items := by
        rcases List.mem_append.1 hitem with hold | hadded
        · exact absurd hold hnew
        · exact hadded
      exact Posting.active_of_admits (hwell i) hadmits item hadded

/-! ## A race -/

/-- Two clients that record the same ride, with identifiers of their own. -/
def rivals (first : Bool) : Posting where
  ctx := Sample.operator
  transaction :=
    { id := ⟨if first then { value := 12 } else { value := 22 }⟩
      debit := { MemoryStore.storedDebit with
        id := ⟨if first then { value := 10 } else { value := 20 }⟩ }
      credit := { MemoryStore.storedCredit with
        id := ⟨if first then { value := 11 } else { value := 21 }⟩ } }

/-- The store before the race. -/
def atStart : Quiet := ⟨Sample.epoch, .start, MemoryStore.oneAccount⟩

/-- They take turns: both have looked at the account and at the key before either appends. -/
def turns : List Bool := [true, false, true, false, true, false, true, false]

/-- The race. -/
def race : Quiet × (Bool → Plan (Except BillingError TransactionId)) :=
  atStart.play (fun i => (rivals i).plan) turns

/-- In the race one of the two gets through, and the other is told of a duplicate. -/
theorem postedOnce_race :
    (∀ i, (rivals i).WellFormed) ∧
    PostedOnce (fun _ => .still atStart.now) rivals atStart.store ⟨race.1.store, race.2⟩ ∧
    race.2 true = .done (.ok (rivals true).transaction.id) ∧
    race.2 false = .done (.error (rivals false).transaction.key.duplicate) := by
  have hwell : ∀ i, (rivals i).WellFormed := fun i =>
    { accepted := ⟨(rivals i).transaction.id, (rivals i).transaction.debit,
        (rivals i).transaction.credit, by cases i <;> rfl⟩
      distinct := by cases i <;> decide }
  have hrun : System.Run (fun _ => .still atStart.now) StoreRequest.AppendsNothing
      ⟨atStart.store, fun i => (rivals i).plan⟩ ⟨race.1.store, race.2⟩ :=
    atStart.run_play (fun i => (rivals i).plan) turns
  exact ⟨hwell, postedOnce_of_run hwell hrun, rfl, rfl⟩

end RideLedger
