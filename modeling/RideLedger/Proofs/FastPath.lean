import RideLedger.Proofs.Alone
import RideLedger.Proofs.Appending
import RideLedger.Proofs.Filing

/-!
# The fast path — looking first changes nothing

Before the service puts a transaction to the store, it looks at the account and at the key itself,
and the store looks at both again when it writes. When nobody else writes in between, the first look
could be left out: whatever it refuses, the store refuses for the same reason, before it asks
whether the request was cancelled and whether an identifier is taken, and the fault of the store
means the error that the first look gives (`Ledger.runs_append_refused`). What it lets pass comes to
the store as it is (`Ledger.runs_append_passed`). So the appending service and the write alone come
to one result and one store (`Ledger.append_agrees_appendDirectly`).

Some of the checks can fail together, and the request may be cancelled as well; it therefore runs
with a token that tells the write whether it was by then (`RunsAttended`). So appending comes to
what the store answers, whatever the token (`Ledger.runs_append`).
-/

namespace RideLedger

variable {token : Quiet → Bool} {cancelled : Bool} {w : Quiet}

namespace Ledger

variable {ctx : RequestContext} {t : LedgerTransaction} {fault : StoreFault}

/-! ## The write alone -/

/-- What the answer of the store to a transaction means. -/
def appendOutcome (t : LedgerTransaction) : Except StoreFault Unit →
    Except BillingError TransactionId
  | .ok () => .ok t.id
  | .error (.conflict _) => .error t.key.duplicate
  | .error (.inactive ..) => .error (.accountInactive t.account)
  | .error fault => .error (.ofStoreFault fault)

/-- Puts a transaction to the store without looking first. -/
def appendDirectly (ctx : RequestContext) (t : LedgerTransaction) : Service TransactionId := do
  let event ← Service.freshId
  Service.ofExcept (appendOutcome t (← Service.ask (.appendTransaction ctx t ⟨event⟩)))

/-- What the store answers to a transaction, and the store after it. When it is asked, an identifier
was drawn for the event. -/
def answered (token : Quiet → Bool) (ctx : RequestContext) (t : LedgerTransaction) (w : Quiet) :
    MemoryStore.Result Unit :=
  w.store.appendTransaction (token (w.drawn 1)) ctx t ⟨w.supply.ordered 0⟩

/-- **The write alone comes to what the store answers.** -/
theorem runs_appendDirectly (token : Quiet → Bool) (ctx : RequestContext)
    (t : LedgerTransaction) (w : Quiet) :
    RunsAttended token (appendDirectly ctx t) w (appendOutcome t (answered token ctx t w).1)
      { w.drawn 1 with store := (answered token ctx t w).2 } :=
  (run_bind_of_ok runsAttended_freshId).trans (run_bind_of_ok (runsAttended_ask rfl))

/-! ## Looking first -/

/-- What the first look at the account and at the key comes upon. -/
def lookFault? (ctx : RequestContext) (t : LedgerTransaction) (s : MemoryStore) :
    Option StoreFault :=
  match s.account? ctx.tenant t.account with
  | none => some (.notFound "Account" t.account.toText)
  | some account =>
    if !account.canReceive then some (.inactive "Account" account.id.toText)
    else if s.keys.contains (ctx.tenant, t.key) then
      some (.conflict ("transaction " ++ t.key.toText ++ " already recorded"))
    else none

/-- **What the first look refuses, the store refuses**, cancelled or not. -/
theorem appendFault?_of_lookFault? {s : MemoryStore} (htenant : t.tenant = ctx.tenant)
    (h : lookFault? ctx t s = some fault) : s.appendFault? cancelled ctx t = some fault := by
  rw [MemoryStore.appendFault?, if_neg (not_not.2 htenant)]
  rw [lookFault?] at h
  cases hfound : s.account? ctx.tenant t.account with
  | none =>
    simp only [hfound] at h ⊢
    exact h
  | some account =>
    simp only [hfound] at h ⊢
    split at h
    · next hinactive => rwa [if_pos hinactive]
    · next hactive =>
      rw [if_neg hactive]
      split at h
      · next hkey => rwa [if_pos hkey]
      · cases h

/-- What the store refuses by the first look is answered so. -/
theorem answered_of_lookFault? (htenant : t.tenant = ctx.tenant)
    (h : lookFault? ctx t w.store = some fault) :
    answered token ctx t w = (.error fault, w.store) :=
  MemoryStore.appendTransaction_of_fault (appendFault?_of_lookFault? htenant h)

/-- **What the first look refuses is refused as the store would refuse it**, and nothing is drawn or
written. -/
theorem runs_append_refused (htenant : t.tenant = ctx.tenant)
    (h : lookFault? ctx t w.store = some fault) :
    RunsAttended token (append ctx t) w (appendOutcome t (.error fault)) w := by
  unfold append
  simp only
  rw [if_neg (not_not.2 htenant)]
  rw [lookFault?] at h
  split at h
  · next hnone =>
    obtain rfl := Option.some.inj h
    exact run_bind_of_error (runsAttended_get_none hnone)
  · next account hsome =>
    refine (run_bind_of_ok (runsAttended_get hsome)).trans ?_
    split at h
    · next hinactive =>
      -- the first look names the account that it found, the write the one that it was asked for
      obtain rfl := Option.some.inj h
      rw [if_pos hinactive, MemoryStore.id_of_account? hsome]
      exact run_bind_of_error rfl
    · next hactive =>
      split at h
      · next hkey =>
        obtain rfl := Option.some.inj h
        rw [if_neg hactive]
        refine (run_bind_of_ok (runsAttended_demand rfl)).trans ?_
        rw [if_pos (decide_eq_true (List.contains_iff_mem.1 hkey))]
        exact run_bind_of_error rfl
      · cases h

/-- **What it lets pass comes to the store as it is.** -/
theorem runs_append_passed (htenant : t.tenant = ctx.tenant)
    (h : lookFault? ctx t w.store = none) {r : Except BillingError TransactionId} {w' : Quiet}
    (hdirect : RunsAttended token (appendDirectly ctx t) w r w') :
    RunsAttended token (append ctx t) w r w' := by
  refine Eq.trans ?_ hdirect
  unfold append
  simp only
  rw [if_neg (not_not.2 htenant)]
  rw [lookFault?] at h
  split at h
  · cases h
  next account hsome =>
  split at h
  · cases h
  next hactive =>
  split at h
  · cases h
  next hkey =>
  refine (run_bind_of_ok (runsAttended_get hsome)).trans ?_
  rw [if_neg hactive]
  refine (run_bind_of_ok (runsAttended_demand rfl)).trans ?_
  rw [if_neg (by simpa using hkey)]
  refine (run_bind_of_ok runsAttended_freshId).trans ?_
  rw [runs_appendDirectly]
  rcases hstore : answered token ctx t w with ⟨answer, s⟩
  have hserve : (w.drawn 1).store.serve (token (w.drawn 1))
      (.appendTransaction ctx t ⟨w.supply.ordered 0⟩) = .ok (answer, s) :=
    congrArg Except.ok hstore
  refine (run_bind_of_ok (runsAttended_ask hserve)).trans ?_
  cases answer with
  | ok _ => rfl
  | error fault => cases fault <;> rfl

/-- **Appending comes to what the store answers.** An identifier is drawn where the first look lets
the transaction pass. -/
theorem runs_append (htenant : t.tenant = ctx.tenant) :
    RunsAttended token (append ctx t) w (appendOutcome t (answered token ctx t w).1)
      { (if (lookFault? ctx t w.store).isSome then w else w.drawn 1) with
        store := (answered token ctx t w).2 } := by
  cases hlook : lookFault? ctx t w.store with
  | none => exact runs_append_passed htenant hlook (runs_appendDirectly ..)
  | some fault =>
    rw [answered_of_lookFault? htenant hlook]
    exact runs_append_refused htenant hlook

/-- A transaction that the store admits passes the first look. -/
theorem lookFault?_of_admits (h : w.store.Admits cancelled ctx t) :
    lookFault? ctx t w.store = none := by
  cases hlook : lookFault? ctx t w.store with
  | none => rfl
  | some fault =>
    have hfault : w.store.appendFault? cancelled ctx t = some fault :=
      appendFault?_of_lookFault? h.tenant hlook
    rw [MemoryStore.appendFault?_eq_none_iff.2 h] at hfault
    cases hfault

/-- **Appending comes to an end.** What it comes to with a value was admitted under two identifiers
and is posted, and an error leaves the store as it was if the identifiers differ. -/
theorem exists_append (token : Quiet → Bool) (ctx : RequestContext) (t : LedgerTransaction)
    (w : Quiet) :
    ∃ result w', RunsAttended token (append ctx t) w result w' ∧
      (∀ x, result = .error x → t.debit.id ≠ t.credit.id → w'.store = w.store) ∧
      ∀ id, result = .ok id → id = t.id ∧ t.debit.id ≠ t.credit.id ∧
        w.store.Admits false ctx t ∧
        w' = { w.drawn 1 with store := w.store.posted ctx t ⟨w.supply.ordered 0⟩ } := by
  by_cases htenant : t.tenant = ctx.tenant
  swap
  · refine ⟨.error (.unauthorized "transaction belongs to another tenant"), w, ?_,
      fun _ _ _ => rfl, fun _ h => nomatch h⟩
    unfold append
    simp only
    rw [if_pos htenant]
    exact run_bind_of_error rfl
  have hruns : RunsAttended token (append ctx t) w _ _ := runs_append htenant
  have hanswered : answered token ctx t w = _ := MemoryStore.appendTransaction_eq
  cases hfault : w.store.appendFault? (token (w.drawn 1)) ctx t with
  | some fault =>
    simp only [hfault] at hanswered
    rw [hanswered] at hruns
    refine ⟨_, _, hruns, fun _ _ _ => rfl, fun id h => ?_⟩
    cases fault <;> cases h
  | none =>
    have hadmits := MemoryStore.appendFault?_eq_none_iff.1 hfault
    rw [lookFault?_of_admits hadmits] at hruns
    by_cases hsame : t.debit.id = t.credit.id
    · simp only [hfault, if_pos hsame] at hanswered
      rw [hanswered] at hruns
      exact ⟨_, _, hruns, fun _ _ hne => absurd hsame hne, fun _ h => nomatch h⟩
    · simp only [hfault, if_neg hsame] at hanswered
      rw [hanswered] at hruns
      exact ⟨_, _, hruns, fun _ h => (nomatch h),
        fun _ h => ⟨(Except.ok.inj h).symm, hsame, hadmits.live ▸ hadmits, rfl⟩⟩

/-! ## One result and one store -/

/-- **The first look changes nothing.** For every store, whatever its contents, every context,
cancelled or not, and every transaction of the context's tenant: the service that looks first and
the write alone, each run without interference, come to one result and leave one store behind. -/
theorem append_agrees_appendDirectly (cancelled : Bool) (w : Quiet)
    (htenant : t.tenant = ctx.tenant) :
    ∃ result looked direct,
      RunsHeeding cancelled (append ctx t) w result looked ∧
      RunsHeeding cancelled (appendDirectly ctx t) w result direct ∧
      looked.store = direct.store := by
  have hlooked : RunsAttended (fun _ => cancelled) (append ctx t) w _ _ := runs_append htenant
  exact ⟨_, _, _, hlooked.heeding, (runs_appendDirectly ..).heeding, rfl⟩

/-- A store whose only account is inactive, though a ride was recorded for it before. -/
def closedAccount : MemoryStore :=
  { MemoryStore.oneAccount with
    accounts := MemoryStore.oneAccount.accounts.map fun a => { a with status := .inactive }
    keys := [(Sample.tenant, MemoryStore.repeatedId.key)] }

/-- A ride that is refused for three reasons: its account is inactive, its key is recorded, and its
request was cancelled. Both name the first. -/
theorem append_agrees_closedAccount :
    ∃ looked direct,
      RunsHeeding true (append Sample.operator MemoryStore.repeatedId)
        ⟨Sample.epoch, .start, closedAccount⟩
        (.error (.accountInactive Sample.unknownAccount)) looked ∧
      RunsHeeding true (appendDirectly Sample.operator MemoryStore.repeatedId)
        ⟨Sample.epoch, .start, closedAccount⟩
        (.error (.accountInactive Sample.unknownAccount)) direct ∧
      looked.store = direct.store := by
  have htenant : MemoryStore.repeatedId.tenant = Sample.operator.tenant := rfl
  have hlook : lookFault? Sample.operator MemoryStore.repeatedId closedAccount =
      some (.inactive "Account" Sample.unknownAccount.toText) := rfl
  have hrefused : RunsAttended (fun _ => true) (append Sample.operator MemoryStore.repeatedId)
      ⟨Sample.epoch, .start, closedAccount⟩ _ _ := runs_append_refused htenant hlook
  obtain ⟨result, looked, direct, hlooked, hdirect, hstore⟩ :=
    append_agrees_appendDirectly true ⟨Sample.epoch, .start, closedAccount⟩ htenant
  obtain ⟨rfl, -⟩ := Prod.mk.inj (Except.ok.inj (hlooked.symm.trans hrefused.heeding))
  exact ⟨looked, direct, hlooked, hdirect, hstore⟩

end Ledger

end RideLedger
