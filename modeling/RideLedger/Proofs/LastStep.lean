import RideLedger.Proofs.Interleaving
import RideLedger.Service.Accounts

/-!
# Last steps — plans that write once, at their end

Some plans read whatever they like and then make one write, and are done when it goes through
(`Plan.WritesLast`). So what such a client came to is decided at its write: it is done with a
result if it wrote, and as long as it did not it has none. The rules of this section say so of a
service part by part: all parts but the last are `Silent`.
-/

namespace RideLedger

/-- A request that neither posts nor bills. -/
def StoreRequest.LeavesBooks : StoreRequest → Prop
  | .appendTransaction .. => False
  | .insertInvoice .. => False
  | _ => True

variable {α β : Type}

namespace Plan

/-- A plan that leaves the books alone but for one write, which is its last step if it goes through.
What it ends with is `written` if it wrote, and `idle` otherwise. -/
def WritesLast (write : StoreRequest → Prop) (idle written : α → Prop) : Plan α → Prop
  | .done a => idle a
  | .fail _ => True
  | .now next => ∀ now, (next now).WritesLast write idle written
  | .fresh _ next => ∀ ids, (next ids).WritesLast write idle written
  | .cancelled next => ∀ b, (next b).WritesLast write idle written
  | .ask request next =>
    (request.LeavesBooks ∧ ∀ answer, (next answer).WritesLast write idle written) ∨
      (write request ∧ (∀ reply, ∃ a, next (.ok reply) = .done a ∧ written a) ∧
        ∀ fault, (next (.error fault)).WritesLast write idle written)
  | .write _ next => ∀ result, (next result).WritesLast write idle written

variable {write : StoreRequest → Prop} {idle written : α → Prop} {idle' written' : β → Prop}
  {p p' : Plan α}

/-- A plan that never writes, and one that goes on from there. -/
theorem WritesLast.bind {f : α → Plan β}
    (hp : p.WritesLast (fun _ => False) (fun _ => True) fun _ => False)
    (hf : ∀ a, (f a).WritesLast write idle' written') :
    (p >>= f).WritesLast write idle' written' := by
  change (p.bind f).WritesLast write idle' written'
  induction p with
  | done a => exact hf a
  | fail fault => trivial
  | now next ih => exact fun now => ih now (hp now)
  | fresh count next ih => exact fun ids => ih ids (hp ids)
  | cancelled next ih => exact fun b => ih b (hp b)
  | ask request next ih =>
    rcases hp with ⟨hleaves, hnext⟩ | ⟨hwrite, -⟩
    · exact .inl ⟨hleaves, fun answer => ih answer (hnext answer)⟩
    · exact hwrite.elim
  | write piece next ih => exact fun result => ih result (hp result)

/-- **What a step of such a plan can do**: it makes the write and is done, or it goes on, having
been served a request that leaves the books alone, or refused the write, or not served at all. -/
theorem WritesLast.step {e : Surroundings} {s s' : MemoryStore}
    (hp : p.WritesLast write idle written) (taken : Step e p s p' s') :
    (∃ request next b reply a, p = .ask request next ∧ write request ∧ e.token b ∧
        s.serve b request = .ok (.ok reply, s') ∧ p' = .done a ∧ written a) ∨
      (p'.WritesLast write idle written ∧
        (s' = s ∨ ∃ request next b answer, p = .ask request next ∧ e.token b ∧
          s.serve b request = .ok (answer, s') ∧
          (request.LeavesBooks ∨ write request ∧ ∃ fault, answer = .error fault))) := by
  cases taken with
  | now => exact .inr ⟨hp _, .inl rfl⟩
  | fresh => exact .inr ⟨hp _, .inl rfl⟩
  | cancelled => exact .inr ⟨hp _, .inl rfl⟩
  | overrun => exact .inr ⟨trivial, .inl rfl⟩
  | write => exact .inr ⟨hp _, .inl rfl⟩
  | @ask request next b s answer s' read served =>
    rcases hp with ⟨hleaves, hnext⟩ | ⟨hwrite, hok, hfault⟩
    · exact .inr ⟨hnext answer, .inr ⟨request, next, b, answer, rfl, read, served, .inl hleaves⟩⟩
    · cases answer with
      | ok reply =>
        obtain ⟨a, hdone, hwritten⟩ := hok reply
        exact .inl ⟨request, next, b, reply, a, rfl, hwrite, read, served, hdone, hwritten⟩
      | error fault =>
        exact .inr ⟨hfault fault,
          .inr ⟨request, next, b, .error fault, rfl, read, served, .inr ⟨hwrite, fault, rfl⟩⟩⟩

end Plan

namespace Service

variable {write : StoreRequest → Prop} {written : Except BillingError β → Prop}

/-- A part of a service that never writes. -/
abbrev Silent (m : Service α) : Prop :=
  m.run.WritesLast (fun _ => False) (fun _ => True) fun _ => False

/-- A service that has not written yet: it has no result. -/
abbrev Unwritten (write : StoreRequest → Prop) (written : Except BillingError α → Prop)
    (p : Plan (Except BillingError α)) : Prop :=
  p.WritesLast write (fun r => ∃ x, r = .error x) written

theorem silent_pure {a : α} : Silent (pure a : Service α) := trivial

theorem silent_throw {x : BillingError} : Silent (throw x : Service α) := trivial

theorem silent_bind {m : Service α} {f : α → Service β} (hm : Silent m)
    (hf : ∀ a, Silent (f a)) : Silent (m >>= f) := by
  refine hm.bind fun r => ?_
  cases r with
  | ok a => exact hf a
  | error x => trivial

theorem silent_ask {request : StoreRequest} (h : request.LeavesBooks) : Silent (ask request) :=
  .inl ⟨h, fun _ => trivial⟩

theorem silent_demand {request : StoreRequest} (h : request.LeavesBooks) :
    Silent (demand request) := by
  refine silent_bind (silent_ask h) fun answer => ?_
  cases answer with
  | ok reply => exact silent_pure
  | error fault => exact silent_throw

theorem silent_now : Silent now := fun _ => trivial

theorem silent_fresh {count : Nat} : Silent (fresh count) := fun _ => trivial

theorem silent_freshId : Silent freshId := fun _ => trivial

theorem silent_ofOutcome {o : Outcome α} : Silent (ofOutcome o) := by
  change Plan.WritesLast _ _ _ (liftM o.run)
  cases o.run with
  | ok r => trivial
  | error fault => trivial

/-- A part that never writes, and a service that has not written yet. -/
theorem unwritten_bind {m : Service α} {f : α → Service β} (hm : Silent m)
    (hf : ∀ a, Unwritten write written (f a).run) : Unwritten write written (m >>= f).run := by
  refine hm.bind fun r => ?_
  cases r with
  | ok a => exact hf a
  | error x => exact ⟨x, rfl⟩

end Service

theorem Accounts.silent_get {ctx : RequestContext} {id : AccountId} :
    Service.Silent (Accounts.get ctx id) := by
  refine Service.silent_bind (Service.silent_demand trivial) fun found => ?_
  cases found with
  | some account => exact Service.silent_pure
  | none => exact Service.silent_throw

end RideLedger
