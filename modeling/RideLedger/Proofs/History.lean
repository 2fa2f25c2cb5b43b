import RideLedger.Proofs.Numbering
import RideLedger.Proofs.Operations

/-!
# History — what no run can take back

A store remembers an earlier one (`MemoryStore.Remembers`) if all that was written to the earlier
one is in it as it was: entries, keys, invoices and markers, the accounts under their identifiers
and tenants, the sequences that were given out, and the events with their stamps. Two operations
change something in place, the update of an account and the stamp of an event, and both leave
alone what is remembered. A sequence of 32 bits does not start over either: to count on from the
last one is a fault, and what runs into it writes nothing (`MemoryStore.insertInvoice_of_usedUp`).
So every request keeps the history, served to whomever and whether it succeeds or fails
(`MemoryStore.Commit.remembers`), and so does every run.
-/

namespace RideLedger

namespace OutboxEvent

variable {e : OutboxEvent} {at_ : Instant}

/-- The event without its stamp. -/
def unstamped (e : OutboxEvent) : OutboxEvent := { e with dispatchedAt := none }

@[simp] theorem unstamped_dispatch : (e.dispatch at_).unstamped = e.unstamped := rfl

@[simp] theorem tenant_dispatch : (e.dispatch at_).tenant = e.tenant := rfl

/-- The first stamp stays. -/
theorem dispatchedAt_dispatch {first : Instant} (h : e.dispatchedAt = some first) :
    (e.dispatch at_).dispatchedAt = some first := by
  simp [dispatch, h]

end OutboxEvent

namespace MemoryStore

variable {cancelled : Bool} {request : StoreRequest} {s s' s'' : MemoryStore}

/-! ## What is remembered -/

/-- The account with an identifier, whosever it is. -/
def holder? (s : MemoryStore) (id : AccountId) : Option Account := s.accounts.find? (·.id = id)

/-- The stamp of the event at a place of the outbox. -/
def stampAt? (outbox : List OutboxEvent) (place : Nat) : Option Instant :=
  outbox[place]?.bind (·.dispatchedAt)

/-- A store that has everything that was written to another one, as it was. -/
structure Remembers (s s' : MemoryStore) : Prop where
  entries : ∀ {id e}, s.entries.get? id = some e → s'.entries.get? id = some e
  invoices : ∀ {id i}, s.invoices.get? id = some i → s'.invoices.get? id = some i
  billed : ∀ {key invoice}, s.billed.get? key = some invoice → s'.billed.get? key = some invoice
  keys : ∀ {key}, key ∈ s.keys → key ∈ s'.keys
  accounts : ∀ {id a}, s.holder? id = some a →
    ∃ a', s'.holder? id = some a' ∧ a'.id = a.id ∧ a'.tenant = a.tenant
  sequences : ∀ {key n}, s.sequences.lookup key = some n →
    ∃ n', s'.sequences.lookup key = some n' ∧ n ≤ n'
  outbox : s.outbox.map (·.unstamped) <+: s'.outbox.map (·.unstamped)
  stamps : ∀ {place t}, stampAt? s.outbox place = some t → stampAt? s'.outbox place = some t

theorem Remembers.refl (s : MemoryStore) : s.Remembers s where
  entries h := h
  invoices h := h
  billed h := h
  keys h := h
  accounts h := ⟨_, h, rfl, rfl⟩
  sequences h := ⟨_, h, UInt32.le_refl _⟩
  outbox := List.prefix_refl _
  stamps h := h

theorem Remembers.trans (h : s.Remembers s') (h' : s'.Remembers s'') : s.Remembers s'' where
  entries hget := h'.entries (h.entries hget)
  invoices hget := h'.invoices (h.invoices hget)
  billed hget := h'.billed (h.billed hget)
  keys hkey := h'.keys (h.keys hkey)
  accounts hfind := by
    obtain ⟨a', hfind', hid, htenant⟩ := h.accounts hfind
    obtain ⟨a'', hfind'', hid', htenant'⟩ := h'.accounts hfind'
    exact ⟨a'', hfind'', hid'.trans hid, htenant'.trans htenant⟩
  sequences hlookup := by
    obtain ⟨n', hlookup', hle⟩ := h.sequences hlookup
    obtain ⟨n'', hlookup'', hle'⟩ := h'.sequences hlookup'
    exact ⟨n'', hlookup'', UInt32.le_trans hle hle'⟩
  outbox := h.outbox.trans h'.outbox
  stamps hstamp := h'.stamps (h.stamps hstamp)

/-- Everything that is only ever added to is remembered where nothing was taken away. -/
theorem Extends.remembers (h : s.Extends s') (haccounts : s'.accounts = s.accounts)
    (hsequences : s'.sequences = s.sequences)
    (houtbox : s.outbox.map (·.unstamped) <+: s'.outbox.map (·.unstamped))
    (hstamps : ∀ {place t}, stampAt? s.outbox place = some t →
      stampAt? s'.outbox place = some t) : s.Remembers s' where
  entries := WriteOnce.get?_of_prefix h.entries
  invoices := WriteOnce.get?_of_prefix h.invoices
  billed := WriteOnce.get?_of_prefix h.billed
  keys hkey := h.keys.subset hkey
  accounts hfind := ⟨_, by rwa [holder?, haccounts], rfl, rfl⟩
  sequences hlookup := ⟨_, by rwa [hsequences], UInt32.le_refl _⟩
  outbox := houtbox
  stamps := hstamps

/-! ## Changes in place -/

/-- Replacing an account replaces what its identifier stands for, and nothing else. -/
theorem find?_replaced {accounts : List Account} {a : Account} {id : AccountId} :
    (accounts.map fun b => if b.id = a.id then a else b).find? (·.id = id) =
      if id = a.id then (accounts.find? (·.id = id)).map fun _ => a
      else accounts.find? (·.id = id) := by
  have hids : (fun b : Account => decide (b.id = id)) ∘ (fun b => if b.id = a.id then a else b) =
      fun b => decide (b.id = id) := by
    funext b
    by_cases hb : b.id = a.id <;> simp [hb]
  rw [List.find?_map, hids]
  cases hfind : accounts.find? (·.id = id) with
  | none => simp
  | some b =>
    obtain rfl : b.id = id := by simpa using List.find?_some hfind
    by_cases hb : b.id = a.id <;> simp [hb]

/-- Stamping an event changes stamps alone. -/
theorem unstamped_stampEvent {tenant : TenantId} {id : EventId} {at_ : Instant}
    {outbox outbox' : List OutboxEvent} (h : stampEvent tenant id at_ outbox = some outbox') :
    outbox'.map (·.unstamped) = outbox.map (·.unstamped) := by
  induction outbox generalizing outbox' with
  | nil => cases h
  | cons e rest ih =>
    rw [stampEvent] at h
    split at h
    · obtain rfl := Option.some.inj h
      simp
    · obtain ⟨rest', hrest, rfl⟩ := Option.map_eq_some_iff.1 h
      simp [ih hrest]

/-- Stamping an event changes no stamp. -/
theorem stampAt?_stampEvent {tenant : TenantId} {id : EventId} {at_ : Instant}
    {outbox outbox' : List OutboxEvent} (h : stampEvent tenant id at_ outbox = some outbox')
    {place : Nat} {t : Instant} (hstamp : stampAt? outbox place = some t) :
    stampAt? outbox' place = some t := by
  induction outbox generalizing outbox' place with
  | nil => cases h
  | cons e rest ih =>
    rw [stampEvent] at h
    split at h
    · obtain rfl := Option.some.inj h
      cases place with
      | zero => exact OutboxEvent.dispatchedAt_dispatch hstamp
      | succ place => exact hstamp
    · obtain ⟨rest', hrest, rfl⟩ := Option.map_eq_some_iff.1 h
      cases place with
      | zero => exact hstamp
      | succ place => exact ih hrest hstamp

/-- A new event has its place behind the others. -/
theorem stampAt?_append {outbox : List OutboxEvent} {e : OutboxEvent} {place : Nat} {t : Instant}
    (hstamp : stampAt? outbox place = some t) : stampAt? (outbox ++ [e]) place = some t := by
  have hplace : place < outbox.length := by
    by_contra hplace
    rw [stampAt?, List.getElem?_eq_none (Nat.le_of_not_lt hplace)] at hstamp
    cases hstamp
  rw [stampAt?, List.getElem?_append_left hplace]
  exact hstamp

/-! ## Every request, every run -/

/-- **No request takes anything back.** -/
theorem Commit.remembers (h : Commit cancelled s request s') : s.Remembers s' := by
  have hextends := h.extends
  cases h with
  | unchanged => exact .refl s
  | opened htenant hlive hname hid =>
    refine { Remembers.refl s with accounts := fun {id a} hfind => ⟨a, ?_, rfl, rfl⟩ }
    rw [holder?] at hfind ⊢
    rw [List.find?_append, hfind]
    rfl
  | @updated ctx a old htenant hlive hfound =>
    refine { Remembers.refl s with accounts := fun {id b} hfind => ?_ }
    rw [holder?] at hfind ⊢
    rw [find?_replaced]
    split
    · next hid =>
      -- the account that is replaced was found in the tenant that the new one names
      subst hid
      rw [account?, hfind, Option.filter_eq_some_iff] at hfound
      obtain ⟨hsame, hown⟩ := hfound
      obtain rfl := Option.some.inj hsame
      have hid : b.id = a.id := by simpa using List.find?_some hfind
      exact ⟨a, by rw [hfind]; rfl, hid.symm, htenant.trans (of_decide_eq_true hown).symm⟩
    · exact ⟨b, hfind, rfl, rfl⟩
  | posted =>
    exact hextends.remembers rfl rfl (by simp [MemoryStore.posted]) stampAt?_append
  | halfPosted => exact hextends.remembers rfl rfl (List.prefix_refl _) id
  | @invoiced ctx d event i hdraft hnumbered hinvoice hnodup =>
    have hof := numbers_of_numbered hnumbered
    refine
      { entries := WriteOnce.get?_of_prefix hextends.entries
        invoices := WriteOnce.get?_of_prefix hextends.invoices
        billed := WriteOnce.get?_of_prefix hextends.billed
        keys := fun hkey => hkey
        accounts := (Remembers.refl s).accounts
        sequences := fun {key n} hlookup => ?_
        outbox := by simp [MemoryStore.invoiced]
        stamps := stampAt?_append }
    rw [MemoryStore.invoiced, lookup_setSequence]
    split
    · next hkey =>
      -- the sequence of the month is one more than the last
      rw [hkey, hof.issueDate] at hlookup
      have hlast : s.counter ctx d.issueDate = n := by rw [counter, hlookup, Option.getD_some]
      refine ⟨_, rfl, ?_⟩
      rw [← hlast, UInt32.le_iff_toNat_le, toNat_nextSequence hof.left]
      exact Nat.le_succ _
    · exact ⟨n, hlookup, UInt32.le_refl n⟩
  | halfInvoiced => exact hextends.remembers rfl rfl (List.prefix_refl _) id
  | stamped hfound =>
    exact hextends.remembers rfl rfl (unstamped_stampEvent hfound ▸ List.prefix_refl _)
      (stampAt?_stampEvent hfound)

end MemoryStore

/-- A step of a plan keeps the history. -/
theorem Plan.Step.remembers {α : Type} {e : Surroundings} {p p' : Plan α} {s s' : MemoryStore}
    (taken : Plan.Step e p s p' s') : s.Remembers s' := by
  cases taken with
  | ask read served => exact (MemoryStore.commit_of_serve served).remembers
  | _ => exact .refl _

/-- **History is append-only.** Whatever any number of clients do side by side, by whatever plans,
and whatever requests others put to the store in between: the store remembers what it was. -/
theorem System.Run.keeps_history {ι α : Type} [DecidableEq ι] {e : ι → Surroundings}
    {others : StoreRequest → Prop} {σ σ' : System ι α} (run : System.Run e others σ σ') :
    σ.store.Remembers σ'.store := by
  induction run with
  | refl => exact .refl _
  | tail _ taken ih =>
    refine ih.trans ?_
    cases taken with
    | client i taken => exact taken.remembers
    | other allowed served => exact (MemoryStore.commit_of_serve served).remembers

/-! ## After the first ride -/

/-- The store after the first ride, on its own. -/
def afterFirstRide : Quiet :=
  ⟨Sample.epoch, .start, MemoryStore.storeAfter MemoryStore.firstCalls⟩

/-- One client dispatches the events of the ride, another one bills it. -/
def dispatchAndBill (first : Bool) : Plan Unit :=
  Operation.plan .default <|
    if first then .drainOutbox Sample.operator 10
    else .generateInvoice Sample.operator MemoryStore.firstAccount Sample.firstWeekOfMarch .default

/-- They take turns. -/
def dispatching : Quiet × (Bool → Plan Unit) :=
  afterFirstRide.play dispatchAndBill
    [true, false, true, false, true, false, true, false, true, false, true, false, true, false]

/-- The event of the ride got its stamp, that of the invoice came after it, and nothing was taken
back. -/
theorem remembers_firstRide :
    MemoryStore.stampAt? afterFirstRide.store.outbox 0 = none ∧
    MemoryStore.stampAt? dispatching.1.store.outbox 0 = some Sample.epoch ∧
    dispatching.1.store.outbox.length = 2 ∧
    afterFirstRide.store.Remembers dispatching.1.store := by
  have hrun : System.Run (fun _ => .still afterFirstRide.now) (fun _ => True)
      ⟨afterFirstRide.store, dispatchAndBill⟩ ⟨dispatching.1.store, dispatching.2⟩ :=
    afterFirstRide.run_play dispatchAndBill _
  exact ⟨by decide +kernel, by decide +kernel, by decide +kernel, System.Run.keeps_history hrun⟩

end RideLedger
