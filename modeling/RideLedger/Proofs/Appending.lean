import RideLedger.Proofs.Writes
import RideLedger.Rehearsal.Sample

/-!
# Appending — all or nothing, but for a repeated identifier

The store looks at everything before it writes a transaction, and then writes its parts one by one.
Nothing that it looked at can make a later part fail, except one thing that it did not look at:
whether the two entries have one identifier. Entries that are posted get identifiers of their own,
but an entry taken from storage brings the one it had, and nothing keeps two of them apart.
-/

namespace RideLedger

namespace MemoryStore

variable {cancelled : Bool} {ctx : RequestContext} {t : LedgerTransaction} {event : EventId}
  {s : MemoryStore}

/-- An append was all or nothing: the two entries, the key and the event were added to the store,
or an error came back and the store is what it was. -/
def AllOrNothing (ctx : RequestContext) (t : LedgerTransaction) (event : EventId)
    (s : MemoryStore) (outcome : Result Unit) : Prop :=
  outcome = (.ok (), s.posted ctx t event) ∨ ∃ fault, outcome = (.error fault, s)

/-- An append broke off: the debit was written, the credit was refused, and there is neither a
key nor an event. -/
def BrokeOff (t : LedgerTransaction) (s : MemoryStore) (outcome : Result Unit) : Prop :=
  outcome = (.error (.immutable s.entries.entity (shownKey t.debit.id)), s.halfPosted t)

/-- Half a transaction more is not nothing more. -/
theorem halfPosted_ne : s.halfPosted t ≠ s := by
  intro h
  have hlength := congrArg (fun m => m.entries.items.length) h
  simp [halfPosted] at hlength

/-- An append that broke off was neither all nor nothing. -/
theorem BrokeOff.not_allOrNothing {outcome : Result Unit} (h : BrokeOff t s outcome) :
    ¬AllOrNothing ctx t event s outcome := by
  rw [BrokeOff] at h
  subst h
  rintro (hall | ⟨fault, hnothing⟩)
  · cases hall
  · exact halfPosted_ne (Prod.mk.inj hnothing).2

/-- A transaction that the store admits breaks off when its entries have one identifier. -/
theorem append_brokeOff (hsame : t.debit.id = t.credit.id) (hadmits : s.Admits cancelled ctx t) :
    BrokeOff t s (s.appendTransaction cancelled ctx t event) := by
  rw [BrokeOff, appendTransaction_eq, appendFault?_eq_none_iff.2 hadmits]
  simp only [hsame, ↓reduceIte]

/-- Any other one is appended all or nothing. -/
theorem append_allOrNothing (h : ¬(t.debit.id = t.credit.id ∧ s.Admits cancelled ctx t)) :
    AllOrNothing ctx t event s (s.appendTransaction cancelled ctx t event) := by
  rw [AllOrNothing, appendTransaction_eq]
  cases hfault : s.appendFault? cancelled ctx t with
  | some fault => exact .inr ⟨fault, rfl⟩
  | none =>
    have hdistinct : t.debit.id ≠ t.credit.id :=
      fun hsame => h ⟨hsame, appendFault?_eq_none_iff.1 hfault⟩
    simp only [hdistinct, ↓reduceIte]
    exact .inl trivial

/-- **When an append is all or nothing.** It is, in every store and for every transaction, unless
the store begins to write two entries of one identifier; and exactly then it breaks off. -/
theorem appendTransaction_allOrNothing_iff (cancelled : Bool) (ctx : RequestContext)
    (t : LedgerTransaction) (event : EventId) (s : MemoryStore) :
    (AllOrNothing ctx t event s (s.appendTransaction cancelled ctx t event) ↔
      ¬(t.debit.id = t.credit.id ∧ s.Admits cancelled ctx t)) ∧
    (BrokeOff t s (s.appendTransaction cancelled ctx t event) ↔
      t.debit.id = t.credit.id ∧ s.Admits cancelled ctx t) := by
  refine ⟨⟨fun hall hcase => ?_, append_allOrNothing⟩, fun hbroke => ?_, fun hcase => ?_⟩
  · exact (append_brokeOff hcase.1 hcase.2).not_allOrNothing hall
  · by_contra hcase
    exact hbroke.not_allOrNothing (append_allOrNothing hcase)
  · exact append_brokeOff hcase.1 hcase.2

/-! ## A transaction that breaks off -/

/-- A store with one active account. -/
def oneAccount : MemoryStore :=
  { empty with
    accounts :=
      [{ id := Sample.unknownAccount, tenant := Sample.tenant, name := Sample.accountName
         accountType := .organization, status := .active, frequency := .weekly
         createdAt := Sample.epoch, createdBy := Sample.operator.actor
         modifiedAt := none, modifiedBy := none }] }

/-- The receivable side of a ride, as storage has it. -/
def storedDebit : LedgerEntry where
  id := ⟨{ value := 1 }⟩
  tenant := Sample.tenant
  account := Sample.unknownAccount
  ledgerAccount := .accountsReceivable
  debitAmount := Sample.rideFare
  creditAmount := Money.zero
  sourceType := .rideCharge
  reference := "ride-1"
  createdAt := Sample.epoch
  createdBy := Sample.operator.actor
  description := none

/-- The revenue side of the same ride, with the identifier of the other side. -/
def storedCredit : LedgerEntry :=
  { storedDebit with
    ledgerAccount := .serviceRevenue, debitAmount := Money.zero, creditAmount := Sample.rideFare }

/-- The two of them as a transaction. -/
def repeatedId : LedgerTransaction :=
  { id := ⟨{ value := 2 }⟩, debit := storedDebit, credit := storedCredit }

/-- **An append that is neither all nor nothing.** Both entries pass the checks of storage, and
they make up a transaction; the store refuses it and keeps its debit, without a key and without an
event. -/
theorem repeatedId_breaks_off :
    LedgerEntry.rehydrate storedDebit = .ok storedDebit ∧
    LedgerEntry.rehydrate storedCredit = .ok storedCredit ∧
    (LedgerTransaction.new ⟨{ value := 2 }⟩ storedDebit storedCredit).Gives repeatedId ∧
    ∃ fault after,
      oneAccount.appendTransaction false Sample.operator repeatedId ⟨{ value := 3 }⟩ =
        (.error fault, after) ∧
      after.entries.values = [storedDebit] ∧ after.keys = [] ∧ after.outbox = [] ∧
      ¬AllOrNothing Sample.operator repeatedId ⟨{ value := 3 }⟩ oneAccount
        (oneAccount.appendTransaction false Sample.operator repeatedId ⟨{ value := 3 }⟩) := by
  have hadmits : oneAccount.Admits false Sample.operator repeatedId :=
    { tenant := rfl, account := ⟨_, rfl, rfl⟩, key := List.not_mem_nil
      debit := List.not_mem_nil, credit := List.not_mem_nil, live := rfl }
  have hbroke : BrokeOff repeatedId oneAccount
      (oneAccount.appendTransaction false Sample.operator repeatedId ⟨{ value := 3 }⟩) :=
    append_brokeOff rfl hadmits
  exact ⟨rfl, rfl, rfl, _, _, hbroke, rfl, rfl, rfl, hbroke.not_allOrNothing⟩

end MemoryStore

end RideLedger
