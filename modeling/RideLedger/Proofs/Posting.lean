import RideLedger.Proofs.Discipline
import RideLedger.Proofs.Filing
import RideLedger.Proofs.LastStep
import RideLedger.Service.Ledger

/-!
# Posting — what a client that appends a transaction can do

A client looks at the account and at the key before it asks the store to append, and by then what
it saw may be stale. It writes nothing else: whatever it is told, its one write is the append of
its own transaction, and that is its last step (`Ledger.unposted_append`). And it reports a
duplicate only if the store had the key (`Ledger.append_reports`).
-/

namespace RideLedger

open Service

variable {ctx : RequestContext} {t : LedgerTransaction} {id : AccountId}

/-- The request that appends a transaction. -/
def StoreRequest.Appends (ctx : RequestContext) (t : LedgerTransaction) (request : StoreRequest) :
    Prop :=
  ∃ event, request = .appendTransaction ctx t event

namespace Ledger

/-- A client that has not posted its transaction yet. -/
abbrev Unposted (ctx : RequestContext) (t : LedgerTransaction) :
    Plan (Except BillingError TransactionId) → Prop :=
  Unwritten (·.Appends ctx t) fun r => r = .ok t.id

/-- **Appending a transaction posts by its last step, if at all.** -/
theorem unposted_append : Unposted ctx t (append ctx t).run := by
  unfold append
  simp only
  split
  · exact ⟨_, rfl⟩
  refine unwritten_bind Accounts.silent_get fun account => ?_
  split
  · exact ⟨_, rfl⟩
  refine unwritten_bind (silent_demand trivial) fun recorded => ?_
  split
  · exact ⟨_, rfl⟩
  refine unwritten_bind silent_freshId fun event => ?_
  refine .inr ⟨⟨_, rfl⟩, fun reply => ⟨_, rfl, rfl⟩, fun fault => ?_⟩
  cases fault <;> exact ⟨_, rfl⟩

end Ledger

namespace MemoryStore

variable {cancelled : Bool} {event : EventId} {request : StoreRequest} {s s' : MemoryStore}

/-- A request that leaves the books alone. -/
theorem Commit.books_eq (h : Commit cancelled s request s') (hleaves : request.LeavesBooks) :
    s'.entries = s.entries ∧ s'.keys = s.keys ∧ s'.billed = s.billed ∧ s'.invoices = s.invoices ∧
      s'.sequences = s.sequences := by
  cases h with
  | posted => exact hleaves.elim
  | halfPosted => exact hleaves.elim
  | invoiced => exact hleaves.elim
  | halfInvoiced => exact hleaves.elim
  | _ => exact ⟨rfl, rfl, rfl, rfl, rfl⟩

/-- An append of two identifiers that goes through was admitted, and one that does not changes
nothing. -/
theorem posted_of_append {answer : Except StoreFault Unit} (hne : t.debit.id ≠ t.credit.id)
    (h : s.appendTransaction cancelled ctx t event = (answer, s')) :
    (answer = .ok () ∧ s.Admits cancelled ctx t ∧ s' = s.posted ctx t event) ∨
      ((∃ fault, answer = .error fault) ∧ s' = s) := by
  rw [appendTransaction_eq] at h
  cases hfault : s.appendFault? cancelled ctx t with
  | some fault =>
    simp only [hfault, Prod.mk.injEq] at h
    exact .inr ⟨⟨fault, h.1.symm⟩, h.2.symm⟩
  | none =>
    simp only [hfault, hne, ↓reduceIte, Prod.mk.injEq] at h
    exact .inl ⟨h.1.symm, appendFault?_eq_none_iff.1 hfault, h.2.symm⟩

end MemoryStore

/-- **What a step of a client that has not posted can do**: it posts and is done, or it leaves the
ledger as it is. -/
theorem Ledger.unposted_step {e : Surroundings} {p p' : Plan (Except BillingError TransactionId)}
    {s s' : MemoryStore} (hne : t.debit.id ≠ t.credit.id) (hp : Unposted ctx t p)
    (taken : Plan.Step e p s p' s') :
    (Unposted ctx t p' ∧ s'.entries = s.entries ∧ s'.keys = s.keys) ∨
      (p' = .done (.ok t.id) ∧
        ∃ cancelled event, s.Admits cancelled ctx t ∧ s' = s.posted ctx t event) := by
  rcases hp.step taken with
    ⟨_, next, b, reply, a, rfl, ⟨event, rfl⟩, -, hserved, hdone, rfl⟩ | ⟨hp', hstore⟩
  -- the append went through
  · rcases MemoryStore.posted_of_append hne (Except.ok.inj hserved) with
      ⟨-, hadmits, hs'⟩ | ⟨⟨fault, hfault⟩, -⟩
    · exact .inr ⟨hdone, b, event, hadmits, hs'⟩
    · cases hfault
  -- any other step: one that asks for nothing, a request beside the books, or a refused append
  · rcases hstore with
      rfl | ⟨request, next, b, answer, rfl, -, hserved, hleaves | ⟨⟨event, rfl⟩, fault, rfl⟩⟩
    · exact .inl ⟨hp', rfl, rfl⟩
    · obtain ⟨hentries, hkeys, -⟩ := (MemoryStore.commit_of_serve hserved).books_eq hleaves
      exact .inl ⟨hp', hentries, hkeys⟩
    · rcases MemoryStore.posted_of_append hne (Except.ok.inj hserved) with
        ⟨hok, -⟩ | ⟨-, rfl⟩
      · cases hok
      · exact .inl ⟨hp', rfl, rfl⟩

/-! ## Reporting duplicates -/

/-- An error that says that the event was recorded before. -/
def BillingError.IsDuplicate (x : BillingError) : Prop :=
  ∃ account source reference, x = .duplicateTransaction account source reference

theorem BillingError.not_isDuplicate_ofStoreFault {fault : StoreFault} :
    ¬(BillingError.ofStoreFault fault).IsDuplicate := by
  rintro ⟨account, source, reference, h⟩
  cases fault <;> cases h

namespace MemoryStore

variable {cancelled : Bool} {event : EventId} {s s' : MemoryStore}

/-- The discipline that asks nothing of anyone: still nothing is taken away. -/
def growing : Discipline where
  inv _ := True
  later := Extends
  may _ _ := True
  mayFail := True
  refl := .refl
  trans := .trans
  kept _ _ hserved := ⟨trivial, (commit_of_serve hserved).extends⟩

/-- The store finds a conflict only with a key that it has. -/
theorem recorded_of_conflict {text : String} {after : MemoryStore}
    (h : s.appendTransaction cancelled ctx t event = (.error (.conflict text), after)) :
    (ctx.tenant, t.key) ∈ s.keys ∧ after = s := by
  rw [appendTransaction_eq] at h
  cases hfault : s.appendFault? cancelled ctx t with
  | some fault =>
    simp only [hfault, Prod.mk.injEq, Except.error.injEq] at h
    obtain ⟨rfl, hafter⟩ := h
    exact ⟨mem_keys_of_appendFault? hfault, hafter.symm⟩
  | none =>
    simp only [hfault] at h
    split at h <;> cases h

end MemoryStore

/-- A service that reports a duplicate only if the event is recorded. -/
abbrev Reports {α : Type} (e : Surroundings) (event : TenantId × TransactionKey)
    (ok : α → MemoryStore → Prop) (m : Service α) (s : MemoryStore) : Prop :=
  m.run.Meets MemoryStore.growing e (Ends ok fun x s => x.IsDuplicate → event ∈ s.keys) s

section Rules

variable {α β : Type} {e : Surroundings} {event : TenantId × TransactionKey} {s : MemoryStore}
  {ok : α → MemoryStore → Prop} {ok' : β → MemoryStore → Prop}

/-- An error of another kind. -/
theorem reports_throw {x : BillingError} (h : ¬x.IsDuplicate) :
    Reports e event ok (throw x) s :=
  meets_throw fun _ _ _ hx => absurd hx h

theorem reports_throw_recorded {x : BillingError} (h : event ∈ s.keys) :
    Reports e event ok (throw x) s :=
  meets_throw fun _ _ hl _ => hl.keys.subset h

theorem reports_bind {m : Service α} {f : α → Service β} (hm : Reports e event ok m s)
    (hf : ∀ a s', s.Extends s' → ok a s' → Reports e event ok' (f a) s') :
    Reports e event ok' (m >>= f) s :=
  meets_bind trivial hm (fun a s' _ hl ha => hf a s' hl ha)
    fun herr _ hl hx => hl.keys.subset (herr hx)

theorem reports_demand {request : StoreRequest} :
    Reports e event (fun reply => Answered MemoryStore.growing e request (.ok reply))
      (demand request) s :=
  meets_demand trivial (fun _ _ _ => trivial) (fun _ _ _ _ _ _ => trivial) fun _ _ _ h =>
    absurd h BillingError.not_isDuplicate_ofStoreFault

theorem Accounts.reports_get : Reports e event Whatever (Accounts.get ctx id) s := by
  refine reports_bind reports_demand fun found s₁ _ _ => ?_
  cases found with
  | some account => exact meets_pure fun _ _ _ => trivial
  | none => exact reports_throw fun ⟨_, _, _, h⟩ => nomatch h

end Rules

/-- **A duplicate is reported only of a recorded event**, whatever happens in the meantime. -/
theorem Ledger.append_reports {e : Surroundings} {s : MemoryStore} :
    Reports e (t.tenant, t.key) Whatever (Ledger.append ctx t) s := by
  unfold Ledger.append
  simp only
  split
  · exact reports_throw fun ⟨_, _, _, h⟩ => nomatch h
  next htenant =>
  rw [not_not] at htenant
  refine reports_bind Accounts.reports_get fun account s₁ _ _ => ?_
  split
  · exact reports_throw fun ⟨_, _, _, h⟩ => nomatch h
  refine reports_bind reports_demand fun recorded s₂ _ hanswer => ?_
  split
  · next hrecorded =>
    -- the key was there when the store was asked for it
    obtain ⟨b, before, after, -, -, hserved, hl⟩ := hanswer
    have hreply : (ctx.tenant, t.key) ∈ before.keys ∧ before = after := by
      simpa [MemoryStore.serve, hrecorded] using hserved
    obtain ⟨hkey, rfl⟩ := hreply
    exact reports_throw_recorded (htenant ▸ hl.keys.subset hkey)
  refine reports_bind meets_freshId fun event s₃ _ _ => ?_
  refine reports_bind (meets_ask (fun _ _ _ => trivial) fun _ _ _ _ _ _ => trivial)
    fun answer s₄ _ hanswer => ?_
  split
  · exact meets_pure fun _ _ _ => trivial
  · -- the store found the key when it was about to write
    obtain ⟨b, before, after, -, -, hserved, hl⟩ := hanswer
    have hconflict := MemoryStore.recorded_of_conflict (Except.ok.inj hserved)
    exact reports_throw_recorded (htenant ▸ hl.keys.subset (hconflict.2 ▸ hconflict.1))
  · exact reports_throw fun ⟨_, _, _, h⟩ => nomatch h
  · exact reports_throw BillingError.not_isDuplicate_ofStoreFault

end RideLedger
