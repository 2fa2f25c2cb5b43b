import RideLedger.Job.Runner
import RideLedger.MemoryStore

/-!
# Rehearsals

A rehearsal runs plans under control: the clock stands still until it is moved,
identifiers come from a supply, the request can be cancelled at a chosen store
operation, and store operations and output can be made to fail. Faults are
armed beforehand; each acts once, at the operation of its name, after letting a
number of calls pass.
-/

namespace RideLedger

/-- What an armed fault does. -/
inductive FaultAction
  /-- The request is cancelled, and the operation goes on. -/
  | cancel
  /-- The question whether a transaction exists is answered. -/
  | answer (b : Bool)
  /-- The operation fails. -/
  | fail (fault : StoreFault)

/-- A fault that waits for an operation. -/
structure ArmedFault where
  operation : String
  /-- How many calls pass before it acts. -/
  skip : Nat
  action : FaultAction

/-- The point of a line at which output fails. -/
inductive OutputPoint
  | text
  | lineEnd
  | flush
deriving DecidableEq

/-- An output that keeps its lines. -/
structure Sink where
  lines : List String
  /-- The line and the point at which writing fails. -/
  failAt : Option (Nat × OutputPoint)

namespace Sink

/-- An output that takes everything. -/
def unlimited : Sink := { lines := [], failAt := none }

/-- Writes a piece. The line being written is the last one kept. -/
def write (piece : OutputPiece) (s : Sink) : Except String Unit × Sink :=
  let full : Except String Unit := .error "disk full"
  match piece with
  | .text line =>
    if s.failAt = some (s.lines.length, .text) then (full, s)
    else (.ok (), { s with lines := s.lines ++ [line] })
  | .lineEnd => (if s.failAt = some (s.lines.length - 1, .lineEnd) then full else .ok (), s)
  | .flush => (if s.failAt = some (s.lines.length - 1, .flush) then full else .ok (), s)

end Sink

/-- A store, its surroundings and the faults in waiting. -/
structure Rehearsal (σ : Type) where
  now : Instant
  supply : Supply
  /-- Whether the current request was cancelled. -/
  cancelled : Bool
  armed : List ArmedFault
  sink : Sink
  store : σ

namespace Rehearsal

variable {σ : Type}

/-- Takes the action of the first fault armed for an operation; while it lets
calls pass, it only counts them. -/
def trigger (operation : String) : List ArmedFault → Option FaultAction × List ArmedFault
  | [] => (none, [])
  | f :: rest =>
    if f.operation = operation then
      if f.skip = 0 then (some f.action, rest) else (none, { f with skip := f.skip - 1 } :: rest)
    else
      let (action, rest) := trigger operation rest
      (action, f :: rest)

/-- Answers a request by the store. -/
def pass (serve : Bool → (r : StoreRequest) → σ → Except RangeFault (r.Answer × σ))
    (request : StoreRequest) (w : Rehearsal σ) :
    Except RangeFault (request.Answer × Rehearsal σ) := do
  let (answer, store) ← serve w.cancelled request w.store
  return (answer, { w with store := store })

/-- Answers a request, by an armed fault or by the store. -/
def serve (store : Bool → (r : StoreRequest) → σ → Except RangeFault (r.Answer × σ))
    (request : StoreRequest) (w : Rehearsal σ) :
    Except RangeFault (request.Answer × Rehearsal σ) :=
  let (action, armed) := trigger request.operation w.armed
  let w := { w with armed := armed }
  match action with
  | none => pass store request w
  | some .cancel => pass store request { w with cancelled := true }
  | some (.fail fault) => .ok (.error fault, w)
  | some (.answer b) =>
    match request with
    | .transactionExists .. => .ok (.ok b, w)
    | request => pass store request w

/-- The world of a rehearsal. -/
def world (store : Bool → (r : StoreRequest) → σ → Except RangeFault (r.Answer × σ)) :
    Plan.World (Rehearsal σ) where
  now w := w.now
  fresh count w := (w.supply.ordered, { w with supply := w.supply.advance count })
  cancelled w := w.cancelled
  serve := serve store
  write piece w :=
    let (result, sink) := w.sink.write piece
    (result, { w with sink := sink })

end Rehearsal

end RideLedger
