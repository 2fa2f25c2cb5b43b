import RideLedger.Job.Runner
import RideLedger.Proofs.Interleaving
import RideLedger.Proofs.Results

/-!
# Running alone — what a service comes to when nobody else writes

A service that runs alone (`Runs`) comes to one result and leaves one state behind. The rules here
take such a run apart: parts in a row run one after another, each step is answered by the store, the
clock or the supply as they are at that moment, and an error ends the run where it occurs.

What the store answers to a write depends on whether the request was cancelled. A token tells that
at every moment (`RunsAttended`); it may be that the request was cancelled before it began or never
is (`RunsHeeding`), and nobody cancels what runs alone. The steps of the run are the same.
-/

namespace RideLedger

variable {α β ε W : Type}

/-- Plans in a row are run one after the other. -/
theorem Plan.run_bind (world : Plan.World W) (p : Plan α) (f : α → Plan β) (w : W) :
    (p >>= f).run world w = p.run world w >>= fun (a, w') => (f a).run world w' := by
  change (p.bind f).run world w = _
  induction p generalizing w with
  | done a => rfl
  | fail fault => rfl
  | now next ih => exact ih _ w
  | fresh count next ih => exact ih _ _
  | cancelled next ih => exact ih _ w
  | ask request next ih =>
    simp only [Plan.bind, Plan.run, bind_assoc]
    congr 1
    funext reply
    exact ih reply.1 reply.2
  | write piece next ih => exact ih _ _

section Bind

variable {world : Plan.World W} {m : ExceptT ε Plan α} {f : α → ExceptT ε Plan β} {w w' : W}

/-- What comes after a part that gives a value is run from where that part ended. -/
theorem run_bind_of_ok {a : α} (hm : m.run.run world w = .ok (.ok a, w')) :
    (m >>= f).run.run world w = (f a).run.run world w' := by
  change (m.run >>= ExceptT.bindCont f).run world w = _
  rw [Plan.run_bind, hm]
  rfl

/-- An error ends the run. -/
theorem run_bind_of_error {x : ε} (hm : m.run.run world w = .ok (.error x, w')) :
    (m >>= f).run.run world w = .ok (.error x, w') := by
  change (m.run >>= ExceptT.bindCont f).run world w = _
  rw [Plan.run_bind, hm]
  rfl

end Bind

/-! ## With a token -/

section Attended

variable {token : Quiet → Bool} {request : StoreRequest} {w : Quiet} {s : MemoryStore}

/-- The world of a store on its own, in which a token tells at every moment whether the request was
cancelled by then. -/
def Quiet.attended (token : Quiet → Bool) : Plan.World Quiet where
  now w := w.now
  fresh count w := (w.supply.ordered, { w with supply := w.supply.advance count })
  cancelled w := token w
  serve request w := do
    let (answer, s) ← w.store.serve (token w) request
    return (answer, { w with store := s })
  write _ w := (.ok (), w)

/-- The state after some identifiers were drawn. -/
def Quiet.drawn (w : Quiet) (count : Nat) : Quiet := { w with supply := w.supply.advance count }

/-- A computation comes to a result and another state, with a token. -/
def RunsAttended (token : Quiet → Bool) (m : ExceptT ε Plan α) (w : Quiet) (r : Except ε α)
    (w' : Quiet) : Prop :=
  m.run.run (Quiet.attended token) w = .ok (r, w')

/-- A computation comes to no result, but to a fault, with a token. -/
def FaultsAttended (token : Quiet → Bool) (m : ExceptT ε Plan α) (w : Quiet)
    (fault : RangeFault) : Prop :=
  m.run.run (Quiet.attended token) w = .error fault

section Bind

variable {m : ExceptT ε Plan α} {f : α → ExceptT ε Plan β} {w₁ w' : Quiet} {r : Except ε β}
  {fault : RangeFault}

/-- What comes after a part that gives a value runs from where that part ended. -/
theorem runsAttended_bind {a : α} (hm : RunsAttended token m w (.ok a) w₁)
    (hf : RunsAttended token (f a) w₁ r w') : RunsAttended token (m >>= f) w r w' :=
  (run_bind_of_ok hm).trans hf

/-- An error ends the run. -/
theorem runsAttended_bind_error {x : ε} (hm : RunsAttended token m w (.error x) w') :
    RunsAttended token (m >>= f) w (.error x) w' :=
  run_bind_of_error hm

/-- A fault of what comes after a part that gives a value ends the whole. -/
theorem faultsAttended_bind {a : α} (hm : RunsAttended token m w (.ok a) w₁)
    (hf : FaultsAttended token (f a) w₁ fault) : FaultsAttended token (m >>= f) w fault :=
  (run_bind_of_ok hm).trans hf

/-- And so does a fault of the part itself. -/
theorem faultsAttended_bind_left (hm : FaultsAttended token m w fault) :
    FaultsAttended token (m >>= f) w fault := by
  change (m.run >>= ExceptT.bindCont f).run (Quiet.attended token) w = _
  rw [Plan.run_bind, hm]
  rfl

end Bind

theorem runsAttended_pure {a : α} : RunsAttended token (pure a : ExceptT ε Plan α) w (.ok a) w :=
  rfl

theorem runsAttended_throw {x : ε} :
    RunsAttended token (throw x : ExceptT ε Plan α) w (.error x) w := rfl

theorem runsAttended_now : RunsAttended token Service.now w (.ok w.now) w := rfl

theorem runsAttended_fresh {count : Nat} :
    RunsAttended token (Service.fresh count) w (.ok w.supply.ordered)
      { w with supply := w.supply.advance count } := rfl

theorem runsAttended_freshId :
    RunsAttended token Service.freshId w (.ok (w.supply.ordered 0))
      { w with supply := w.supply.advance 1 } := rfl

theorem runsAttended_ask {answer : request.Answer}
    (h : w.store.serve (token w) request = .ok (answer, s)) :
    RunsAttended token (Service.ask request) w (.ok answer) { w with store := s } := by
  change (Plan.ask request fun a => .done (Except.ok a)).run (Quiet.attended token) w = _
  simp only [Plan.run, Quiet.attended, h, ok_bind]
  rfl

theorem runsAttended_demand {reply : request.Reply}
    (h : w.store.serve (token w) request = .ok (.ok reply, s)) :
    RunsAttended token (Service.demand request) w (.ok reply) { w with store := s } :=
  run_bind_of_ok (runsAttended_ask h)

theorem runsAttended_demand_error {fault : StoreFault}
    (h : w.store.serve (token w) request = .ok (.error fault, s)) :
    RunsAttended token (Service.demand request) w (.error (.ofStoreFault fault))
      { w with store := s } :=
  run_bind_of_ok (runsAttended_ask h)

theorem faultsAttended_demand {fault : RangeFault}
    (h : w.store.serve (token w) request = .error fault) :
    FaultsAttended token (Service.demand request) w fault := by
  refine faultsAttended_bind_left ?_
  change (Plan.ask request fun a => .done (Except.ok a)).run (Quiet.attended token) w = _
  simp only [Plan.run, Quiet.attended, h, error_bind]

theorem runsAttended_ofOutcome {o : Outcome α} {r : Except BillingError α} (h : o.run = .ok r) :
    RunsAttended token (Service.ofOutcome o) w r w := by
  change (liftM o.run : Plan (Except BillingError α)).run (Quiet.attended token) w = _
  rw [h]
  rfl

/-- The result of a run, as a value. -/
theorem runsAttended_attempt {m : Service α} {r : Except BillingError α} {w' : Quiet}
    (h : RunsAttended token m w r w') : RunsAttended token m.attempt w (.ok r) w' := by
  change (m.run >>= fun r => pure (Except.ok r)).run (Quiet.attended token) w = _
  rw [Plan.run_bind, h]
  rfl

/-- A fault is not a result, so it cannot be had as a value. -/
theorem faultsAttended_attempt {m : Service α} {fault : RangeFault}
    (h : FaultsAttended token m w fault) : FaultsAttended token m.attempt w fault := by
  change (m.run >>= fun r => pure (Except.ok r)).run (Quiet.attended token) w = _
  rw [Plan.run_bind, h]
  rfl

/-- Finding an account does not look at the token. -/
theorem runsAttended_get {ctx : RequestContext} {id : AccountId} {a : Account}
    (h : w.store.account? ctx.tenant id = some a) :
    RunsAttended token (Accounts.get ctx id) w (.ok a) w := by
  have hserve : w.store.serve (token w) (.findAccount ctx id) = .ok (.ok (some a), w.store) := by
    rw [← h]
    rfl
  exact run_bind_of_ok (runsAttended_demand hserve)

theorem runsAttended_get_none {ctx : RequestContext} {id : AccountId}
    (h : w.store.account? ctx.tenant id = none) :
    RunsAttended token (Accounts.get ctx id) w (.error (.notFound "Account" id.toText)) w := by
  have hserve : w.store.serve (token w) (.findAccount ctx id) = .ok (.ok none, w.store) := by
    rw [← h]
    rfl
  exact run_bind_of_ok (runsAttended_demand hserve)

end Attended

/-! ## Cancelled or not -/

section Heeding

variable {cancelled : Bool} {request : StoreRequest} {w : Quiet} {s : MemoryStore}

/-- The world of a store on its own, in which a request was cancelled before it began or never
is. -/
def Quiet.heeding (cancelled : Bool) : Plan.World Quiet where
  now w := w.now
  fresh count w := (w.supply.ordered, { w with supply := w.supply.advance count })
  cancelled _ := cancelled
  serve request w := do
    let (answer, s) ← w.store.serve cancelled request
    return (answer, { w with store := s })
  write _ w := (.ok (), w)

/-- A computation comes to a result and another state, cancelled or not. -/
def RunsHeeding (cancelled : Bool) (m : ExceptT ε Plan α) (w : Quiet) (r : Except ε α)
    (w' : Quiet) : Prop :=
  m.run.run (Quiet.heeding cancelled) w = .ok (r, w')

/-- A token that always tells the same. -/
theorem RunsAttended.heeding {m : ExceptT ε Plan α} {w w' : Quiet} {r : Except ε α}
    (h : RunsAttended (fun _ => cancelled) m w r w') : RunsHeeding cancelled m w r w' := h

theorem runsHeeding_demand {reply : request.Reply}
    (h : w.store.serve cancelled request = .ok (.ok reply, s)) :
    RunsHeeding cancelled (Service.demand request) w (.ok reply) { w with store := s } :=
  (runsAttended_demand h).heeding

theorem runsHeeding_get {ctx : RequestContext} {id : AccountId} {a : Account}
    (h : w.store.account? ctx.tenant id = some a) :
    RunsHeeding cancelled (Accounts.get ctx id) w (.ok a) w :=
  (runsAttended_get h).heeding

theorem runsHeeding_get_none {ctx : RequestContext} {id : AccountId}
    (h : w.store.account? ctx.tenant id = none) :
    RunsHeeding cancelled (Accounts.get ctx id) w (.error (.notFound "Account" id.toText)) w :=
  (runsAttended_get_none h).heeding

end Heeding

/-! ## Alone -/

/-- A computation that runs alone from one state comes to a result and another state. -/
def Runs (m : ExceptT ε Plan α) (w : Quiet) (r : Except ε α) (w' : Quiet) : Prop :=
  m.run.run Quiet.world w = .ok (r, w')

/-- What is never cancelled runs in the world in which nobody cancels. -/
theorem RunsHeeding.runs {m : ExceptT ε Plan α} {w w' : Quiet} {r : Except ε α}
    (h : RunsHeeding false m w r w') : Runs m w r w' := h

/-- What runs where nobody cancels runs with a token that never tells of it. -/
theorem Runs.attended {m : ExceptT ε Plan α} {w w' : Quiet} {r : Except ε α}
    (h : Runs m w r w') : RunsAttended (fun _ => false) m w r w' := h

/-- A computation that runs alone comes to a fault. -/
def Faults (m : ExceptT ε Plan α) (w : Quiet) (fault : RangeFault) : Prop :=
  m.run.run Quiet.world w = .error fault

section Rules

variable {m : ExceptT ε Plan α} {f : α → ExceptT ε Plan β} {w w₁ w' : Quiet} {r : Except ε β}

theorem runs_pure {a : α} : Runs (pure a : ExceptT ε Plan α) w (.ok a) w := rfl

/-- What comes after a part that gives a value runs from where that part ended. -/
theorem runs_bind {a : α} (hm : Runs m w (.ok a) w₁) (hf : Runs (f a) w₁ r w') :
    Runs (m >>= f) w r w' :=
  (run_bind_of_ok hm).trans hf

/-- An error ends the run. -/
theorem runs_bind_error {x : ε} (hm : Runs m w (.error x) w') :
    Runs (m >>= f) w (.error x) w' :=
  run_bind_of_error hm

/-- A fault of what comes after a part that gives a value ends the whole. -/
theorem faults_bind {a : α} {fault : RangeFault} (hm : Runs m w (.ok a) w₁)
    (hf : Faults (f a) w₁ fault) : Faults (m >>= f) w fault :=
  (run_bind_of_ok hm).trans hf

end Rules

/-! ## Single steps -/

section Steps

variable {request : StoreRequest} {w : Quiet} {s : MemoryStore}

/-- Nobody cancels. -/
theorem runs_cancelled : Runs Service.cancelled w (.ok false) w := rfl

theorem runs_demand {reply : request.Reply}
    (h : w.store.serve false request = .ok (.ok reply, s)) :
    Runs (Service.demand request) w (.ok reply) { w with store := s } :=
  (runsHeeding_demand h).runs

theorem runs_ofOutcome {o : Outcome α} {r : Except BillingError α} (h : o.run = .ok r) :
    Runs (Service.ofOutcome o) w r w :=
  (runsAttended_ofOutcome h).heeding.runs

theorem runs_ofExcept {r : Except BillingError α} : Runs (Service.ofExcept r) w r w := rfl

/-- The result of a run, as a value. -/
theorem runs_attempt {m : Service α} {r : Except BillingError α} {w' : Quiet}
    (h : Runs m w r w') : Runs m.attempt w (.ok r) w' :=
  (runsAttended_attempt h.attended).heeding.runs

/-- An operation runs as part of a job as it runs alone. -/
theorem runs_ofService {m : Service α} {a : α} {w' : Quiet} (h : Runs m w (.ok a) w') :
    Runs (Job.ofService m) w (.ok a) w' := by
  change (m.run >>= fun r => _).run Quiet.world w = _
  rw [Plan.run_bind, h]
  rfl

end Steps

/-! ## Finding an account -/

section Accounts

variable {ctx : RequestContext} {id : AccountId} {w : Quiet}

theorem runs_get {a : Account} (h : w.store.account? ctx.tenant id = some a) :
    Runs (Accounts.get ctx id) w (.ok a) w :=
  (runsHeeding_get h).runs

end Accounts

end RideLedger
