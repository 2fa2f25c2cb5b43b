import RideLedger.Proofs.FastPath
import RideLedger.Proofs.Reconciliation

/-!
# Acceptance — which rides and payments the ledger takes

What is required of a ride or a payment is looked at in four places, one after another. The request
is looked at for the lengths of its texts, in characters. The entries are looked at for their amount
and for the reference without blanks at its ends, in bytes. The service looks at the account and at
the event, and so does the store, which looks last at whether the request was cancelled.

All of it comes to one list of requirements in their order (`EventRequest.requirements`). A request
is recorded if it meets every one; otherwise it is refused with the error of the first that it does
not meet, and leaves the store as it was. What is recorded are its two entries, its key and its
event, and they change what the account owes by the amount (`exists_recording`).
-/

namespace RideLedger

open Money (totalUnits)
open Ledger (appendOutcome)

/-! ## Requirements in their order -/

/-- What is required of a request, and the error of one that does not meet it. -/
structure Requirement where
  met : Bool
  error : BillingError

namespace Requirement

variable {α β : Type} {reqs more : List Requirement} {a : α} {x : BillingError}

/-- A value, if all requirements are met, and otherwise the error of the first that is not. -/
def judge (a : α) : List Requirement → Except BillingError α
  | [] => .ok a
  | q :: rest => if q.met then judge a rest else .error q.error

/-- The error of the first of some requirements that is not met. -/
def FirstUnmet (reqs : List Requirement) (x : BillingError) : Prop :=
  ∃ before q after, reqs = before ++ q :: after ∧ (∀ p ∈ before, p.met = true) ∧ q.met = false ∧
    q.error = x

theorem judge_eq_ok_iff {b : α} : judge a reqs = .ok b ↔ (∀ q ∈ reqs, q.met = true) ∧ a = b := by
  induction reqs with
  | nil => simp [judge]
  | cons q rest ih => by_cases hq : q.met <;> simp [judge, hq, ih]

theorem firstUnmet_of_judge (h : judge a reqs = .error x) : FirstUnmet reqs x := by
  induction reqs with
  | nil => cases h
  | cons q rest ih =>
    rw [judge] at h
    split at h
    · next hmet =>
      obtain ⟨before, p, after, rfl, hbefore, hunmet, hx⟩ := ih h
      exact ⟨q :: before, p, after, rfl, List.forall_mem_cons.2 ⟨hmet, hbefore⟩, hunmet, hx⟩
    · next hunmet =>
      exact ⟨[], q, rest, rfl, by simp, by simpa using hunmet, Except.error.inj h⟩

/-- Requirements in a row are judged one part after the other. -/
theorem judge_append (b : β) :
    judge a (reqs ++ more) = judge b reqs >>= fun _ => judge a more := by
  induction reqs with
  | nil => rfl
  | cons q rest ih =>
    rw [List.cons_append, judge, judge]
    split
    · exact ih
    · rfl

/-- Whether a value is given does not depend on which. -/
theorem judge_eq_bind (b : β) : judge a reqs = judge b reqs >>= fun _ => .ok a := by
  have h : judge a (reqs ++ []) = _ := judge_append b
  rwa [List.append_nil] at h

end Requirement

open Requirement (judge judge_append judge_eq_bind judge_eq_ok_iff)

/-! ## The texts -/

/-- The lengths of the texts, in characters. -/
def textRequirements (field reference : String) (description : Option String) : List Requirement :=
  [{ met := 1 ≤ reference.length && reference.length ≤ maxReferenceCharacters &&
      description.all (·.length ≤ maxDescriptionLength)
     error := .validation (.lengths (referenceFaults field reference description)) }]

theorem referenceFaults_eq_nil_iff {field reference : String} {description : Option String} :
    referenceFaults field reference description = [] ↔
      1 ≤ reference.length ∧ reference.length ≤ maxReferenceCharacters ∧
        description.all (·.length ≤ maxDescriptionLength) = true := by
  rw [referenceFaults, lengthFaults, List.map_eq_nil_iff, List.filter_eq_nil_iff]
  simp only [List.forall_mem_cons, Option.any_some, Bool.or_eq_true, decide_eq_true_eq, not_or,
    Nat.not_lt]
  cases description with
  | none => simp
  | some text => simp [and_comm, and_assoc]

/-- **A request is looked at for the lengths of its texts.** -/
theorem run_checkLengths {field reference : String} {description : Option String} :
    (checkLengths (referenceFaults field reference description)).run =
      .ok (judge () (textRequirements field reference description)) := by
  have hfaults := @referenceFaults_eq_nil_iff field reference description
  simp only [checkLengths, textRequirements, judge, Bool.and_eq_true, decide_eq_true_eq,
    and_assoc, ← hfaults]
  split <;> rfl

/-! ## The entries -/

/-- The amount, and the reference without blanks at its ends, in bytes. -/
def entryRequirements (amount : Money) (reference : String) : List Requirement :=
  [{ met := 0 < amount.units, error := .validation (.amountNotPositive amount) },
   { met := amount.units ≤ maxEntryUnits, error := .validation (.amountTooLarge amount) },
   { met := trim reference ≠ "", error := .validation .blankReference },
   { met := (trim reference).utf8ByteSize ≤ maxReferenceLength
     error := .validation .longReference }]

section Entries

variable {side : PostingSide} {id : EntryId} {ledgerAccount debited credited : LedgerAccount}
  {amount : Money} {source : EntrySource} {ids : TransactionIds}

/-- The entry that is made from a source. -/
def LedgerEntry.ofSource (side : PostingSide) (id : EntryId) (ledgerAccount : LedgerAccount)
    (amount : Money) (source : EntrySource) : LedgerEntry where
  id := id
  tenant := source.tenant
  account := source.account
  ledgerAccount := ledgerAccount
  debitAmount := if side = .debit then amount else Money.zero
  creditAmount := if side = .credit then amount else Money.zero
  sourceType := source.sourceType
  reference := trim source.reference
  createdAt := source.createdAt
  createdBy := source.createdBy
  description := source.description

/-- **An entry is looked at for its amount and its reference.** -/
theorem LedgerEntry.post_eq :
    post side id ledgerAccount amount source =
      judge (ofSource side id ledgerAccount amount source)
        (entryRequirements amount source.reference) := by
  have hpositive : amount.isPositive = decide (0 < amount.units) := by
    rw [Bool.eq_iff_iff, decide_eq_true_eq, Money.isPositive_iff]
  have hlarge : maxEntryAmount.lt amount.amount = !decide (amount.units ≤ maxEntryUnits) := by
    by_cases h : amount.units ≤ maxEntryUnits
    · simp [h, Money.not_lt_iff.2 h]
    · simpa [h] using mt Money.not_lt_iff.1 h
  simp only [post, validReference, entryRequirements, judge, hpositive, hlarge,
    Bool.not_eq_eq_eq_not, Bool.not_true, decide_eq_false_iff_not, decide_eq_true_eq]
  by_cases hpos : 0 < amount.units
  swap
  · rw [if_pos hpos, if_neg hpos]
    rfl
  rw [if_neg (not_not.2 hpos), if_pos hpos]
  by_cases hle : amount.units ≤ maxEntryUnits
  swap
  · rw [if_pos hle, if_neg hle]
    rfl
  rw [if_neg (not_not.2 hle), if_pos hle]
  by_cases hblank : trim source.reference = ""
  · rw [if_pos hblank, if_neg (not_not.2 hblank)]
    rfl
  rw [if_neg hblank, if_pos hblank]
  by_cases hlong : (trim source.reference).utf8ByteSize ≤ maxReferenceLength
  · rw [if_neg (Nat.not_lt.2 hlong), if_pos hlong]
    rfl
  · rw [if_pos (Nat.lt_of_not_le hlong), if_neg hlong]
    rfl

namespace LedgerTransaction

/-- The transaction that is made from a source. -/
def ofSource (ids : TransactionIds) (debited credited : LedgerAccount) (amount : Money)
    (source : EntrySource) : LedgerTransaction where
  id := ids.transaction
  debit := .ofSource .debit ids.debit debited amount source
  credit := .ofSource .credit ids.credit credited amount source

/-- Its entries are a double entry. -/
theorem doubleEntry_ofSource (hledger : debited ≠ credited)
    (h : judge () (entryRequirements amount source.reference) = .ok ()) :
    DoubleEntry (ofSource ids debited credited amount source).debit
      (ofSource ids debited credited amount source).credit := by
  have hmet := (judge_eq_ok_iff.1 h).1
  simp only [entryRequirements, List.forall_mem_cons, decide_eq_true_eq] at hmet
  exact
    { debit_pos := hmet.1, debit_le := hmet.2.1, debit_only := Money.units_zero
      credit_only := Money.units_zero, equal := rfl, tenant := rfl, account := rfl
      sourceType := rfl, reference := rfl, ledgerAccount := hledger }

/-- **A transaction is looked at for what its entries are looked at for.** -/
theorem run_post (hledger : debited ≠ credited) :
    (post ids debited credited amount source).run =
      .ok (judge (ofSource ids debited credited amount source)
        (entryRequirements amount source.reference)) := by
  have hentry (side : PostingSide) (id : EntryId) (ledgerAccount : LedgerAccount) :
      LedgerEntry.post side id ledgerAccount amount source =
        judge () (entryRequirements amount source.reference) >>= fun _ =>
          .ok (.ofSource side id ledgerAccount amount source) :=
    LedgerEntry.post_eq.trans (judge_eq_bind ())
  rw [post, LedgerEntry.debit, LedgerEntry.credit, hentry, hentry,
    judge_eq_bind (a := ofSource ids debited credited amount source) ()]
  cases hjudged : judge () (entryRequirements amount source.reference) with
  | error x => rfl
  | ok _ => exact new_of_doubleEntry (doubleEntry_ofSource hledger hjudged)

end LedgerTransaction

end Entries

/-! ## The store -/

/-- The account, the event, and that the request was not cancelled. -/
def writingRequirements (ctx : RequestContext) (key : TransactionKey) (s : MemoryStore)
    (cancelled : Bool) : List Requirement :=
  [{ met := (s.account? ctx.tenant key.account).isSome
     error := .notFound "Account" key.account.toText },
   { met := (s.account? ctx.tenant key.account).any (·.status = .active)
     error := .accountInactive key.account },
   { met := !s.keys.contains (ctx.tenant, key), error := key.duplicate },
   { met := !cancelled, error := .cancelled }]

/-- **The store is asked for what is required.** It writes a transaction under two new identifiers,
or it answers with the fault that means the error of the first requirement that is not met. -/
theorem MemoryStore.appendTransaction_judged {s : MemoryStore} {cancelled : Bool}
    {ctx : RequestContext} {t : LedgerTransaction} {event : EventId}
    (htenant : t.tenant = ctx.tenant) (hne : t.debit.id ≠ t.credit.id)
    (hdebit : t.debit.id ∉ s.entries.keys) (hcredit : t.credit.id ∉ s.entries.keys) :
    (judge () (writingRequirements ctx t.key s cancelled) = .ok () ∧
      s.appendTransaction cancelled ctx t event = (.ok (), s.posted ctx t event)) ∨
    ∃ fault x, judge () (writingRequirements ctx t.key s cancelled) = .error x ∧
      s.appendTransaction cancelled ctx t event = (.error fault, s) ∧
      appendOutcome t (.error fault) = .error x := by
  have haccount : t.key.account = t.account := rfl
  have hfind : t.entries.find? (fun e => s.entries.contains e.id) = none := by
    simp [LedgerTransaction.entries, WriteOnce.contains_iff, hdebit, hcredit]
  cases ha : s.account? ctx.tenant t.account with
  | none =>
    refine .inr ⟨.notFound "Account" t.account.toText, .notFound "Account" t.account.toText, ?_, ?_,
      rfl⟩
    · simp [writingRequirements, judge, haccount, ha]
    · exact appendTransaction_of_fault (by simp [appendFault?, htenant, ha])
  | some a =>
    by_cases hactive : a.status = .active
    swap
    · refine .inr ⟨.inactive "Account" a.id.toText, .accountInactive t.account, ?_, ?_, rfl⟩
      · simp [writingRequirements, judge, haccount, ha, hactive]
      · exact appendTransaction_of_fault
          (by simp [appendFault?, htenant, ha, Account.canReceive, hactive])
    by_cases hkey : (ctx.tenant, t.key) ∈ s.keys
    · refine .inr ⟨.conflict ("transaction " ++ t.key.toText ++ " already recorded"),
        t.key.duplicate, ?_, ?_, rfl⟩
      · simp [writingRequirements, judge, haccount, ha, hactive, hkey]
      · exact appendTransaction_of_fault
          (by simp [appendFault?, htenant, ha, Account.canReceive, hactive, hkey])
    cases cancelled with
    | true =>
      refine .inr ⟨.cancelled, .cancelled, ?_, ?_, rfl⟩
      · simp [writingRequirements, judge, haccount, ha, hactive, hkey]
      · exact appendTransaction_of_fault
          (by simp [appendFault?, htenant, ha, Account.canReceive, hactive, hkey, hfind])
    | false =>
      have hadmits : s.Admits false ctx t :=
        { tenant := htenant, account := ⟨a, ha, by simp [Account.canReceive, hactive]⟩
          key := hkey, debit := hdebit, credit := hcredit, live := rfl }
      refine .inl ⟨?_, ?_⟩
      · simp [writingRequirements, judge, haccount, ha, hactive, hkey]
      · rw [appendTransaction_eq, appendFault?_eq_none_iff.2 hadmits]
        exact if_neg hne

/-! ## Rides and payments -/

/-- A request to record an event. -/
inductive EventRequest
  | ride (r : RideChargeRequest)
  | payment (r : PaymentRequest)

namespace EventRequest

def account : EventRequest → AccountId
  | ride r => r.account
  | payment r => r.account

/-- The field of the reference. -/
def field : EventRequest → String
  | ride _ => "ride_id"
  | payment _ => "payment_id"

def reference : EventRequest → String
  | ride r => r.ride
  | payment r => r.payment

def amount : EventRequest → Money
  | ride r => r.amount
  | payment r => r.amount

def description : EventRequest → Option String
  | ride r => r.description
  | payment r => r.description

/-- The description of an event that comes without one. -/
def remark : EventRequest → String
  | ride _ => "Ride charge"
  | payment _ => "Payment received"

def sourceType : EventRequest → SourceType
  | ride _ => .rideCharge
  | payment _ => .payment

def debited : EventRequest → LedgerAccount
  | ride _ => .accountsReceivable
  | payment _ => .cash

def credited : EventRequest → LedgerAccount
  | ride _ => .serviceRevenue
  | payment _ => .accountsReceivable

/-- By how much the event changes what its account owes, in ten-thousandths. -/
def change : EventRequest → Int
  | ride r => r.amount.units
  | payment r => -r.amount.units

/-- Recording the event. -/
def record (ctx : RequestContext) : EventRequest → Service LedgerTransaction
  | ride r => Ledger.recordRideCharge ctx r
  | payment r => Ledger.recordPayment ctx r

/-- The event that is recorded. -/
def key (r : EventRequest) : TransactionKey :=
  { account := r.account, sourceType := r.sourceType, reference := trim r.reference }

/-- Where its entries come from. -/
def source (ctx : RequestContext) (now : Instant) (r : EventRequest) : EntrySource where
  tenant := ctx.tenant
  account := r.account
  sourceType := r.sourceType
  reference := r.reference
  createdAt := now
  createdBy := ctx.actor
  description := some (r.description.getD r.remark)

/-- The transaction that it is recorded as, under the first three identifiers that are drawn. -/
def transaction (ctx : RequestContext) (w : Quiet) (r : EventRequest) : LedgerTransaction :=
  .ofSource
    { transaction := ⟨w.supply.ordered 2⟩, debit := ⟨w.supply.ordered 0⟩
      credit := ⟨w.supply.ordered 1⟩ }
    r.debited r.credited r.amount (r.source ctx w.now)

/-- **All that is required of an event**, in the order in which it is looked at. -/
def requirements (ctx : RequestContext) (s : MemoryStore) (cancelled : Bool) (r : EventRequest) :
    List Requirement :=
  textRequirements r.field r.reference r.description ++
    (entryRequirements r.amount r.reference ++ writingRequirements ctx r.key s cancelled)

theorem debited_ne_credited (r : EventRequest) : r.debited ≠ r.credited := by
  cases r <;> simp [debited, credited]

/-- Rides and payments are recorded in the same steps. -/
theorem record_eq (ctx : RequestContext) (r : EventRequest) :
    r.record ctx = (do
      Service.ofOutcome (checkLengths (referenceFaults r.field r.reference r.description))
      let t ← Service.ofOutcome (LedgerTransaction.post (← Ledger.freshIds) r.debited r.credited
        r.amount (r.source ctx (← Service.now)))
      let _ ← Ledger.append ctx t
      return t) := by
  cases r <;> rfl

end EventRequest

/-! ## The run -/

/-- A computation that some requirements settle: if all are met, it comes to a value and writes, and
otherwise it comes to the error of the first that is not, and writes nothing. -/
inductive Settled {α : Type} (token : Quiet → Bool) (m : Service α) (w : Quiet)
    (reqs : List Requirement) (a : α) (written : MemoryStore) : Prop
  | taken {w' : Quiet} (met : judge () reqs = .ok ()) (runs : RunsAttended token m w (.ok a) w')
      (store : w'.store = written) : Settled token m w reqs a written
  | refused {x : BillingError} {w' : Quiet} (unmet : judge () reqs = .error x)
      (runs : RunsAttended token m w (.error x) w') (same : w'.store = w.store) :
      Settled token m w reqs a written

section Run

variable {α β : Type} {token : Quiet → Bool} {reqs more : List Requirement} {a : α} {b : β}
  {s : MemoryStore} {w w₁ : Quiet}

/-- What comes before a settled computation may draw identifiers, but not write. -/
theorem Settled.after {m : Service β} {f : β → Service α} (hm : RunsAttended token m w (.ok b) w₁)
    (hsame : w₁.store = w.store) (h : Settled token (f b) w₁ reqs a s) :
    Settled token (m >>= f) w reqs a s := by
  cases h with
  | taken met runs store => exact .taken met ((run_bind_of_ok hm).trans runs) store
  | refused unmet runs same =>
    exact .refused unmet ((run_bind_of_ok hm).trans runs) (same.trans hsame)

/-- What is given in the end does not change what is required. -/
theorem Settled.giving {m : Service β} (h : Settled token m w reqs b s) (a : α) :
    Settled token (m >>= fun _ => pure a) w reqs a s := by
  cases h with
  | taken met runs store => exact .taken met (run_bind_of_ok runs) store
  | refused unmet runs same => exact .refused unmet (run_bind_of_error runs) same

/-- A check adds its requirements to those of what comes after it. -/
theorem settled_check {o : Outcome β} {f : β → Service α} (ho : o.run = .ok (judge b reqs))
    (hf : judge () reqs = .ok () → Settled token (f b) w more a s) :
    Settled token (Service.ofOutcome o >>= f) w (reqs ++ more) a s := by
  rw [judge_eq_bind ()] at ho
  have hmore : judge () (reqs ++ more) = judge () reqs >>= fun _ => judge () more :=
    judge_append ()
  cases hjudged : judge () reqs with
  | error x =>
    rw [hjudged] at ho hmore
    exact .refused hmore (run_bind_of_error (runsAttended_ofOutcome ho)) rfl
  | ok _ =>
    rw [hjudged] at ho hmore
    have hchecked : RunsAttended token (Service.ofOutcome o) w (.ok b) w :=
      runsAttended_ofOutcome ho
    cases hf hjudged with
    | taken met runs store =>
      exact .taken (hmore.trans met) ((run_bind_of_ok hchecked).trans runs) store
    | refused unmet runs same =>
      exact .refused (hmore.trans unmet) ((run_bind_of_ok hchecked).trans runs) same

/-- **Appending is settled by what the store is asked for.** -/
theorem Ledger.settled_append {ctx : RequestContext} {t : LedgerTransaction}
    (htenant : t.tenant = ctx.tenant) (hne : t.debit.id ≠ t.credit.id)
    (hdebit : t.debit.id ∉ w.store.entries.keys) (hcredit : t.credit.id ∉ w.store.entries.keys) :
    Settled token (append ctx t) w (writingRequirements ctx t.key w.store (token (w.drawn 1))) t.id
      (w.store.posted ctx t ⟨w.supply.ordered 0⟩) := by
  obtain ⟨w', hruns, hstore⟩ : ∃ w', RunsAttended token (append ctx t) w
      (appendOutcome t (answered token ctx t w).1) w' ∧ w'.store = (answered token ctx t w).2 :=
    ⟨_, runs_append htenant, rfl⟩
  rw [answered] at hruns hstore
  rcases MemoryStore.appendTransaction_judged htenant hne hdebit hcredit with
    ⟨hmet, hanswer⟩ | ⟨fault, x, hunmet, hanswer, hfault⟩
  · rw [hanswer] at hruns hstore
    exact .taken hmet hruns hstore
  · rw [hanswer] at hruns hstore
    rw [hfault] at hruns
    exact .refused hunmet hruns hstore

/-- **A ride or a payment is settled by all that is required of it.** -/
theorem EventRequest.settled_record (token : Quiet → Bool) (ctx : RequestContext)
    (r : EventRequest)
    (hfresh : ∀ place < 2, (⟨w.supply.ordered place⟩ : EntryId) ∉ w.store.entries.keys) :
    Settled token (r.record ctx) w (r.requirements ctx w.store (token (w.drawn 4)))
      (r.transaction ctx w) (w.store.posted ctx (r.transaction ctx w) ⟨w.supply.ordered 3⟩) := by
  rw [record_eq, requirements]
  refine settled_check run_checkLengths fun _ => ?_
  -- three identifiers are drawn for the transaction, so that of the event is the fourth
  have hids : RunsAttended token Ledger.freshIds w _ (w.drawn 3) :=
    run_bind_of_ok runsAttended_fresh
  refine .after hids rfl (.after runsAttended_now rfl ?_)
  refine settled_check (LedgerTransaction.run_post r.debited_ne_credited) fun _ => ?_
  have hne : (r.transaction ctx w).debit.id ≠ (r.transaction ctx w).credit.id := fun hsame => by
    have hplace := Quiet.ordered_inj (show 3 ≤ 2 ^ 128 by decide) (by decide) (by decide)
      (congrArg Id.uuid hsame)
    cases hplace
  exact (Ledger.settled_append (w := w.drawn 3) rfl hne (hfresh 0 (by decide))
    (hfresh 1 (by decide))).giving _

end Run

/-! ## What the account owes -/

/-- The entries of a posted transaction are the last ones of its account. -/
theorem MemoryStore.accountEntries_posted {s : MemoryStore} {ctx : RequestContext}
    {t : LedgerTransaction} {event : EventId} (hdouble : DoubleEntry t.debit t.credit)
    (htenant : t.tenant = ctx.tenant) :
    (s.posted ctx t event).accountEntries ctx.tenant t.account =
      s.accountEntries ctx.tenant t.account ++ t.entries := by
  have hdebit : t.debit.tenant = ctx.tenant := htenant
  have hcredit : t.credit.tenant = ctx.tenant := hdouble.tenant.symm.trans hdebit
  have haccount : t.debit.account = t.account := rfl
  have hother : t.credit.account = t.account := hdouble.account.symm
  simp [accountEntries, tenantEntries, posted, WriteOnce.extend_values, LedgerTransaction.entries,
    hdebit, hcredit, haccount, hother]

/-- **A ride adds its amount to what its account owes, and a payment takes it off.** -/
theorem EventRequest.total_delta {ctx : RequestContext} {r : EventRequest} {w : Quiet}
    (hdouble : DoubleEntry (r.transaction ctx w).debit (r.transaction ctx w).credit) :
    totalUnits ((r.transaction ctx w).entries.map (·.receivableDelta)) = r.change := by
  obtain ⟨hdebit, hcredit⟩ := hdouble.sides
  rw [LedgerTransaction.entries, List.map_cons, List.map_cons, List.map_nil, Money.totalUnits_cons,
    Money.totalUnits_cons, Money.totalUnits_nil, LedgerEntry.receivableDelta,
    LedgerEntry.receivableDelta, hdebit, hcredit]
  cases r with
  | ride r =>
    change r.amount.units + (Money.zero.units + 0) = r.amount.units
    simp
  | payment r =>
    change Money.zero.units + (r.amount.neg.units + 0) = -r.amount.units
    simp [Money.units_neg]

/-- **What the account owes before and after.** The store has room for both balances. -/
theorem EventRequest.exists_balances {ctx : RequestContext} {r : EventRequest} {w w' : Quiet}
    {event : EventId} {cancelled : Bool} (hreachable : w.store.Reachable LedgerTransaction.Built)
    (hsize : w.store.entries.size + 2 ≤ ledgerCapacity)
    (hmet : ∀ q ∈ r.requirements ctx w.store cancelled, q.met = true)
    (hposted : w'.store = w.store.posted ctx (r.transaction ctx w) event) :
    ∃ before after, Runs (Ledger.balance ctx r.account) w (.ok before) w ∧
      Runs (Ledger.balance ctx r.account) w' (.ok after) w' ∧
      after.units = before.units + r.change := by
  obtain ⟨-, journal, hjournal⟩ := hreachable.journaled
  have hentries : judge () (entryRequirements r.amount r.reference) = .ok () :=
    judge_eq_ok_iff.2 ⟨fun q hq => hmet q (by simp [requirements, hq]), rfl⟩
  have hdouble : DoubleEntry (r.transaction ctx w).debit (r.transaction ctx w).credit :=
    LedgerTransaction.doubleEntry_ofSource r.debited_ne_credited hentries
  have hwriting : ∀ q ∈ writingRequirements ctx r.key w.store cancelled, q.met = true :=
    fun q hq => hmet q (by simp [requirements, hq])
  obtain ⟨a, ha⟩ : ∃ a, w.store.account? ctx.tenant r.account = some a :=
    Option.isSome_iff_exists.1 (hwriting _ (List.mem_cons_self ..))
  have ha' : w'.store.account? ctx.tenant r.account = some a := by rw [hposted]; exact ha
  have hjournal' : MemoryStore.IsJournal (journal ++ [r.transaction ctx w]) w'.store := by
    rw [hposted]
    exact hjournal.posted hdouble rfl
  have hsize' : w'.store.entries.size ≤ ledgerCapacity := by
    rw [hposted]
    simpa [MemoryStore.posted, WriteOnce.size] using hsize
  obtain ⟨before, -, hbefore, hunits⟩ := MemoryStore.exists_balance w.now w.supply
    (hjournal.roomy (Nat.le_of_add_right_le hsize)) ha
  obtain ⟨after, -, hafter, hunits'⟩ := MemoryStore.exists_balance w'.now w'.supply
    (hjournal'.roomy hsize') ha'
  refine ⟨before, after, hbefore, hafter, ?_⟩
  have hadded : w'.store.accountEntries ctx.tenant r.account =
      w.store.accountEntries ctx.tenant r.account ++ (r.transaction ctx w).entries := by
    rw [hposted]
    exact MemoryStore.accountEntries_posted hdouble rfl
  rw [hunits', hunits, hadded, List.map_append, Money.totalUnits_append, total_delta hdouble]

/-! ## Acceptance -/

/-- What becomes of a ride or a payment: it is refused for the first requirement that it does not
meet, or it is taken, and its account owes so much more or less. -/
inductive Recording (token : Quiet → Bool) (ctx : RequestContext) (r : EventRequest) (w : Quiet) :
    Except BillingError LedgerTransaction → Quiet → Prop
  | refused {x : BillingError} {w' : Quiet}
      (first : Requirement.FirstUnmet (r.requirements ctx w.store (token (w.drawn 4))) x)
      (same : w'.store = w.store) : Recording token ctx r w (.error x) w'
  | taken {before after : Money} {w' : Quiet}
      (met : ∀ q ∈ r.requirements ctx w.store (token (w.drawn 4)), q.met = true)
      (posted : w'.store = w.store.posted ctx (r.transaction ctx w) ⟨w.supply.ordered 3⟩)
      (owedBefore : Runs (Ledger.balance ctx r.account) w (.ok before) w)
      (owedAfter : Runs (Ledger.balance ctx r.account) w' (.ok after) w')
      (change : after.units = before.units + r.change) :
      Recording token ctx r w (.ok (r.transaction ctx w)) w'

/-- **The ledger takes exactly the rides and payments that meet all requirements**, in every
reachable store with room for two more entries, and with a token that may tell of a cancellation at
any moment: it counts in the moment of the write. -/
theorem exists_recording (token : Quiet → Bool) (ctx : RequestContext) (r : EventRequest)
    {w : Quiet} (hreachable : w.store.Reachable LedgerTransaction.Built)
    (hsize : w.store.entries.size + 2 ≤ ledgerCapacity)
    (hfresh : ∀ place < 2, (⟨w.supply.ordered place⟩ : EntryId) ∉ w.store.entries.keys) :
    ∃ result w', RunsAttended token (r.record ctx) w result w' ∧
      ((∃ t, result = .ok t) ↔
        ∀ q ∈ r.requirements ctx w.store (token (w.drawn 4)), q.met = true) ∧
      Recording token ctx r w result w' := by
  cases r.settled_record token ctx hfresh with
  | taken met runs store =>
    have hmet := (judge_eq_ok_iff.1 met).1
    obtain ⟨before, after, hbefore, hafter, hchange⟩ :=
      EventRequest.exists_balances hreachable hsize hmet store
    exact ⟨_, _, runs, ⟨fun _ => hmet, fun _ => ⟨_, rfl⟩⟩,
      .taken hmet store hbefore hafter hchange⟩
  | refused unmet runs same =>
    have hunmet : ¬∀ q ∈ r.requirements ctx w.store (token (w.drawn 4)), q.met = true := fun hmet =>
      nomatch unmet.symm.trans (judge_eq_ok_iff.2 ⟨hmet, rfl⟩)
    exact ⟨_, _, runs, ⟨fun ⟨_, ht⟩ => (nomatch ht), fun hmet => absurd hmet hunmet⟩,
      .refused (Requirement.firstUnmet_of_judge unmet) same⟩

/-! ## A second payment -/

namespace MemoryStore

/-- A payment whose reference has blanks around it. -/
def secondPayment : EventRequest :=
  .payment
    { account := firstAccount, payment := " pay-2 ", amount := Sample.partialPayment
      description := none }

/-- It is taken under the reference without the blanks: the account owed 27.50, and owes 17.50. -/
theorem exists_recording_secondPayment :
    reconciled.store.Reachable LedgerTransaction.Built ∧
    reconciled.store.entries.size + 2 ≤ ledgerCapacity ∧
    (∀ place < 2, (⟨reconciled.supply.ordered place⟩ : EntryId) ∉ reconciled.store.entries.keys) ∧
    ∃ t w', RunsAttended (fun _ => false) (secondPayment.record Sample.operator) reconciled (.ok t)
        w' ∧
      t.reference = "pay-2" ∧ w'.store.entries.size = 10 ∧
      ∃ owed, Runs (Ledger.balance Sample.operator firstAccount) w' (.ok owed) w' ∧
        owed.units = 175000 := by
  have hreachable : reconciled.store.Reachable LedgerTransaction.Built :=
    reachable_reconciled
  have hcount : reconciled.store.entries.size = 8 := by decide +kernel
  have hsize : reconciled.store.entries.size + 2 ≤ ledgerCapacity := by rw [hcount]; decide
  have hfresh : ∀ place < 2,
      (⟨reconciled.supply.ordered place⟩ : EntryId) ∉ reconciled.store.entries.keys := by
    decide +kernel
  have hmet : ∀ q ∈ secondPayment.requirements Sample.operator reconciled.store false,
      q.met = true := by decide +kernel
  obtain ⟨result, w', hruns, haccepted, hrecording⟩ :=
    exists_recording (fun _ => false) Sample.operator secondPayment hreachable hsize hfresh
  obtain ⟨t, rfl⟩ := haccepted.2 hmet
  cases hrecording with
  | @taken before after _ _ hstore howed howed' hchange =>
    have hshown : ((Ledger.balance Sample.operator firstAccount).run.run Quiet.world reconciled).map
        (fun (r, _) => r.toOption.map (·.units)) = .ok (some 275000) := by decide +kernel
    have hrun : (Ledger.balance Sample.operator firstAccount).run.run Quiet.world reconciled =
      .ok (.ok before, reconciled) := howed
    rw [hrun] at hshown
    have hbefore : before.units = 275000 := Option.some.inj (Except.ok.inj hshown)
    have hpaid : secondPayment.change = -100000 := by decide
    have hposted : w'.store.entries.size = reconciled.store.entries.size + 2 := by
      simp [hstore, posted, WriteOnce.size]
    exact ⟨hreachable, hsize, hfresh, _, w', hruns, by decide +kernel, by omega, after, howed',
      by omega⟩

end MemoryStore

end RideLedger
