import RideLedger.StoreRequest
import RideLedger.Supply

/-!
# Plans

A billing operation is a plan: a tree of steps, each of which asks something of
the world and goes on with the answer. The steps are atomic; between two of
them other operations may run. What a plan can ask is the time, fresh
identifiers, whether the request was cancelled, one store operation, and to
write a piece of output.

Running a plan in a world (`Plan.run`) takes the steps one after another. A
plan whose arithmetic runs out of range stops there, and the whole run has no
result.
-/

namespace RideLedger

/-- A piece of output: a text, the end of its line, or the demand to pass on
what was written. -/
inductive OutputPiece
  | text (s : String)
  | lineEnd
  | flush

/-- A tree of steps that ends in a value. -/
inductive Plan (α : Type) : Type
  | done (a : α)
  | fail (fault : RangeFault)
  | now (next : Instant → Plan α)
  | fresh (count : Nat) (next : (Nat → Uuid) → Plan α)
  | cancelled (next : Bool → Plan α)
  | ask (request : StoreRequest) (next : request.Answer → Plan α)
  | write (piece : OutputPiece) (next : Except String Unit → Plan α)

namespace Plan

variable {α β : Type}

/-- Goes on with the value of a plan. -/
def bind : Plan α → (α → Plan β) → Plan β
  | .done a, f => f a
  | .fail fault, _ => .fail fault
  | .now next, f => .now fun t => (next t).bind f
  | .fresh count next, f => .fresh count fun ids => (next ids).bind f
  | .cancelled next, f => .cancelled fun b => (next b).bind f
  | .ask request next, f => .ask request fun a => (next a).bind f
  | .write piece next, f => .write piece fun r => (next r).bind f

instance : Monad Plan where
  pure := .done
  bind := bind

instance : MonadLift (Except RangeFault) Plan where
  monadLift
    | .ok a => .done a
    | .error fault => .fail fault

/-- The answers of a world with states `W`. -/
structure World (W : Type) where
  now : W → Instant
  fresh : Nat → W → (Nat → Uuid) × W
  cancelled : W → Bool
  serve : (request : StoreRequest) → W → Except RangeFault (request.Answer × W)
  write : OutputPiece → W → Except String Unit × W

/-- Takes the steps of a plan in a world. -/
def run {W : Type} (world : World W) : Plan α → W → Except RangeFault (α × W)
  | .done a, w => .ok (a, w)
  | .fail fault, _ => .error fault
  | .now next, w => (next (world.now w)).run world w
  | .fresh count next, w =>
    let (ids, w) := world.fresh count w
    (next ids).run world w
  | .cancelled next, w => (next (world.cancelled w)).run world w
  | .ask request next, w => do
    let (answer, w) ← world.serve request w
    (next answer).run world w
  | .write piece next, w =>
    let (result, w) := world.write piece w
    (next result).run world w

end Plan

/-- A billing operation: a plan for a result or an error. -/
abbrev Service := ExceptT BillingError Plan

namespace Service

variable {α : Type}

/-- A single step. -/
def step (plan : Plan α) : Service α := ExceptT.lift plan

/-- The current instant. -/
def now : Service Instant := step (.now .done)

/-- As many fresh identifiers, by their place. -/
def fresh (count : Nat) : Service (Nat → Uuid) := step (.fresh count .done)

/-- One fresh identifier. -/
def freshId : Service Uuid := do return (← fresh 1) 0

/-- Whether the request was cancelled. -/
def cancelled : Service Bool := step (.cancelled .done)

/-- One store operation, with its fault as it is. -/
def ask (request : StoreRequest) : Service request.Answer := step (.ask request .done)

/-- One store operation; a fault ends the service. -/
def demand (request : StoreRequest) : Service request.Reply := do
  match ← ask request with
  | .ok reply => pure reply
  | .error fault => throw (.ofStoreFault fault)

/-- A pure computation. -/
def ofOutcome (o : Outcome α) : Service α := ExceptT.mk (liftM o.run)

/-- A pure result. -/
def ofExcept (r : Except BillingError α) : Service α := ExceptT.mk (pure r)

/-- The outcome of a service as a value: its errors do not end the caller. -/
def attempt (s : Service α) : Service (Except BillingError α) := ExceptT.lift s.run

end Service

end RideLedger
