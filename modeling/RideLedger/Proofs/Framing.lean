import RideLedger.Proofs.Dispatch
import RideLedger.Proofs.EventLines

/-!
# Framing — what a dispatch wrote is cut into its lines

A dispatch writes the line of an event, ends it, passes it on, and stamps the event only then. Here
it goes on in any world: between its steps others may use the store, the request may be cancelled,
and the store and the output may fail. So what it did is not read from the log of a desk, but from
the plan as it went in that world (`Plan.acts`), and a dispatch that comes to an end is one of a few
kinds (`Job.Dispatching`).

No line has the end of a line in it, and each is read as its event (`OutboxEvent.OneLine`). So the
output, cut at the ends of lines, has a line for every event that was stamped, in order, perhaps one
for the event at which it broke off, and behind them at most a part of one (`Framed`). That one more
line cannot be helped: a line is there before its event is stamped, and if it cannot be passed on,
its event goes on waiting and is written once more by a later dispatch.
-/

namespace RideLedger

variable {W α β : Type}

/-! ## What a plan does in a world -/

/-- What a plan did that shows outside of it: a piece that it wrote, and what that came to, or a
request, and its answer. -/
inductive Act
  | wrote (piece : OutputPiece) (result : Except String Unit)
  | asked (request : StoreRequest) (answer : request.Answer)

namespace Plan

/-- What a plan does in a world, in order. -/
def acts (world : World W) : Plan α → W → List Act
  | .done _, _ => []
  | .fail _, _ => []
  | .now next, w => (next (world.now w)).acts world w
  | .fresh count next, w => (next (world.fresh count w).1).acts world (world.fresh count w).2
  | .cancelled next, w => (next (world.cancelled w)).acts world w
  | .ask request next, w =>
    match world.serve request w with
    | .ok (answer, w') => .asked request answer :: (next answer).acts world w'
    | .error _ => []
  | .write piece next, w =>
    .wrote piece (world.write piece w).1 ::
      (next (world.write piece w).1).acts world (world.write piece w).2

section Rules

variable {world : World W} {P : List Act → α → Prop} {a : α}

end Rules

end Plan

/-! ## The dispatch of events as a tree -/

namespace Job

variable {ctx : RequestContext} {event : OutboxEvent} {rest : List OutboxEvent}

/-- What was done about an event at which a dispatch broke off. -/
inductive Broken (ctx : RequestContext) (event : OutboxEvent) : List Act → Prop
  | line (reason : String) : Broken ctx event [.wrote (.text event.line) (.error reason)]
  | lineEnd (reason : String) :
      Broken ctx event [.wrote (.text event.line) (.ok ()), .wrote .lineEnd (.error reason)]
  | flush (reason : String) :
      Broken ctx event [.wrote (.text event.line) (.ok ()), .wrote .lineEnd (.ok ()),
        .wrote .flush (.error reason)]
  | stamp (t : Instant) (fault : StoreFault) :
      Broken ctx event [.wrote (.text event.line) (.ok ()), .wrote .lineEnd (.ok ()),
        .wrote .flush (.ok ()), .asked (.markDispatched ctx event.id t) (.error fault)]

/-- A dispatch of events, with what it did and came to: it stopped before one of them, or behind the
last one, or it broke off at one. -/
inductive Dispatching (ctx : RequestContext) :
    List OutboxEvent → List Act → Except JobError Nat → Prop
  | stopped {events : List OutboxEvent} : Dispatching ctx events [] (.ok 0)
  | passed {event : OutboxEvent} {rest : List OutboxEvent} {acts : List Act}
      {r : Except JobError Nat} (t : Instant) (after : Dispatching ctx rest acts r) :
      Dispatching ctx (event :: rest)
        (.wrote (.text event.line) (.ok ()) :: .wrote .lineEnd (.ok ()) :: .wrote .flush (.ok ()) ::
          .asked (.markDispatched ctx event.id t) (.ok ()) :: acts) (r.map (· + 1))
  | brokeOff {event : OutboxEvent} {rest : List OutboxEvent} {acts : List Act} {e : JobError}
      (broken : Broken ctx event acts) : Dispatching ctx (event :: rest) acts (.error e)

/-- What a dispatch of the outbox did and came to: it was given no events, or it dispatched those
that it was given. -/
inductive Draining (ctx : RequestContext) (limit : UInt32) :
    List Act → Except JobError Nat → Prop
  | refused (fault : StoreFault) :
      Draining ctx limit [.asked (.pendingEvents ctx limit) (.error fault)]
        (.error (.billing (.ofStoreFault fault)))
  | given {events : List OutboxEvent} {acts : List Act} {r : Except JobError Nat}
      (dispatching : Dispatching ctx events acts r) :
      Draining ctx limit (.asked (.pendingEvents ctx limit) (.ok events) :: acts) r

end Job

/-! ## Outputs -/

/-- The characters of a piece. -/
def OutputPiece.chars : OutputPiece → List Char
  | .text s => s.toList
  | .lineEnd => ['\n']
  | .flush => []

/-- What acts put out: each piece that was written, and of one that could not be as much as fitted,
which may be nothing or all of it. -/
def Output : List Act → List Char → Prop
  | [], out => out = []
  | .wrote piece (.ok ()) :: acts, out => ∃ rest, piece.chars ++ rest = out ∧ Output acts rest
  | .wrote piece (.error _) :: acts, out =>
    ∃ part rest, part <+: piece.chars ∧ part ++ rest = out ∧ Output acts rest
  | .asked .. :: acts, out => Output acts out

/-- The event that got its stamp, if the act was to stamp one. -/
def Act.stamped? : Act → Option EventId
  | .asked (.markDispatched _ id _) (.ok ()) => some id
  | _ => none

/-- The events that got their stamps, in order. -/
def stampedIds (acts : List Act) : List EventId := acts.filterMap Act.stamped?

/-- The events that were handed out for a dispatch. -/
def handedOut : List Act → List OutboxEvent
  | .asked (.pendingEvents _ _) (.ok events) :: _ => events
  | _ => []

/-! ## Lines -/

/-- An output of which the first lines are those of the first `n` of some events and nothing else.
The first `k` of these events got stamps. -/
structure Framed (events : List OutboxEvent) (acts : List Act) (r : Except JobError Nat)
    (out : List Char) (k n : Nat) (tail : List Char) : Prop where
  stamped : stampedIds acts = (events.take k).map (·.id)
  /-- At most one line was written for which there is no stamp. -/
  le : k ≤ n ∧ n ≤ k + 1 ∧ n ≤ events.length
  /-- The lines are read as the events. -/
  lines : ∃ lines, InvoiceNumber.splitAt '\n' out = lines ++ [tail] ∧
    lines.map (fun line => OutboxEvent.ofLine? (.ofList line)) = (events.take n).map some
  /-- Behind the last end of a line there is nothing, or the beginning of the next line. -/
  torn : tail = [] ∨ n = k ∧ ∃ e, events[k]? = some e ∧ tail <+: e.line.toList
  /-- What went well wrote no more than it stamped. -/
  counted : ∀ m, r = .ok m → m = k ∧ n = k ∧ tail = []

/-- The line of an event is cut off as one. -/
theorem OutboxEvent.OneLine.splitAt_line {e : OutboxEvent} (h : e.OneLine) (out : List Char) :
    InvoiceNumber.splitAt '\n' (e.line.toList ++ '\n' :: out) =
      e.line.toList :: InvoiceNumber.splitAt '\n' out := by
  rw [InvoiceNumber.splitAt_append, InvoiceNumber.splitAt_of_not_mem h.unbroken,
    List.singleton_append]

namespace Framed

variable {ctx : RequestContext} {event : OutboxEvent} {events rest : List OutboxEvent}
  {acts : List Act} {r : Except JobError Nat} {out tail : List Char} {k n : Nat}

/-- Nothing was written. -/
theorem stopped : Framed events [] (.ok 0) [] 0 0 [] where
  stamped := rfl
  le := by omega
  lines := ⟨[], rfl, rfl⟩
  torn := .inl rfl
  counted m hm := ⟨(Except.ok.inj hm).symm, rfl, rfl⟩

/-- An event that was passed on comes before the others that were. -/
theorem passed (h : Framed rest acts r out k n tail) (hline : event.OneLine) (t : Instant) :
    Framed (event :: rest)
      (.wrote (.text event.line) (.ok ()) :: .wrote .lineEnd (.ok ()) :: .wrote .flush (.ok ()) ::
        .asked (.markDispatched ctx event.id t) (.ok ()) :: acts) (r.map (· + 1))
      (event.line.toList ++ '\n' :: out) (k + 1) (n + 1) tail where
  stamped := congrArg (event.id :: ·) h.stamped
  le := by
    have hle := h.le
    rw [List.length_cons]
    omega
  lines := by
    obtain ⟨lines, hsplit, hread⟩ := h.lines
    refine ⟨event.line.toList :: lines, ?_, ?_⟩
    · rw [hline.splitAt_line, hsplit]
      rfl
    · rw [List.map_cons, String.ofList_toList, hline.read, hread]
      rfl
  torn := by
    refine h.torn.imp_right ?_
    rintro ⟨rfl, e, he, htail⟩
    exact ⟨rfl, e, he, htail⟩
  counted m hm := by
    cases r with
    | error e => cases hm
    | ok m' =>
      obtain rfl : m' + 1 = m := Except.ok.inj hm
      obtain ⟨rfl, rfl, rfl⟩ := h.counted m' rfl
      exact ⟨rfl, rfl, rfl⟩

/-- Of an event that was broken off a part of the line was written. -/
theorem tornLine {e : JobError} (hstamped : stampedIds acts = []) (hline : event.OneLine)
    (hout : out <+: event.line.toList) :
    Framed (event :: rest) acts (.error e) out 0 0 out where
  stamped := hstamped
  le := by omega
  lines := ⟨[], InvoiceNumber.splitAt_of_not_mem fun hmem => hline.unbroken (hout.subset hmem), rfl⟩
  torn := .inr ⟨rfl, event, rfl, hout⟩
  counted m hm := nomatch hm

/-- Of an event that was broken off the whole line was written. -/
theorem wholeLine {e : JobError} (hstamped : stampedIds acts = []) (hline : event.OneLine) :
    Framed (event :: rest) acts (.error e) (event.line.toList ++ ['\n']) 0 1 [] where
  stamped := hstamped
  le := by
    rw [List.length_cons]
    omega
  lines := by
    refine ⟨[event.line.toList], ?_, ?_⟩
    · rw [hline.splitAt_line]
      rfl
    · rw [List.map_singleton, String.ofList_toList, hline.read]
      rfl
  torn := .inl rfl
  counted m hm := nomatch hm

end Framed

namespace Job

variable {ctx : RequestContext} {event : OutboxEvent} {events rest : List OutboxEvent}
  {acts : List Act} {r : Except JobError Nat} {out : List Char}

/-- Of an event at which a dispatch broke off the output has the line, or a part of it. -/
theorem Broken.framed {e : JobError} (h : Broken ctx event acts) (hline : event.OneLine)
    (hout : Output acts out) :
    ∃ n tail, Framed (event :: rest) acts (.error e) out 0 n tail := by
  cases h <;> simp only [Output, OutputPiece.chars] at hout
  case line reason =>
    obtain ⟨part, _, hpart, rfl, rfl⟩ := hout
    rw [List.append_nil]
    exact ⟨0, part, .tornLine rfl hline hpart⟩
  case lineEnd reason =>
    obtain ⟨_, rfl, part, _, hpart, rfl, rfl⟩ := hout
    rw [List.append_nil]
    obtain rfl | rfl : part = [] ∨ part = ['\n'] := by simpa [List.prefix_cons_iff] using hpart
    · exact ⟨0, _, .tornLine rfl hline (List.append_nil _ ▸ List.prefix_rfl)⟩
    · exact ⟨1, [], .wholeLine rfl hline⟩
  case flush reason =>
    obtain ⟨_, rfl, _, rfl, part, _, hpart, rfl, rfl⟩ := hout
    obtain rfl : part = [] := List.prefix_nil.1 hpart
    exact ⟨1, [], .wholeLine rfl hline⟩
  case stamp t fault =>
    obtain ⟨_, rfl, _, rfl, _, rfl, rfl⟩ := hout
    exact ⟨1, [], .wholeLine rfl hline⟩

/-- **What a dispatch wrote is cut into the lines of its events**: by induction on the events, each
of which comes before the others with its line. -/
theorem Dispatching.framed (h : Dispatching ctx events acts r)
    (hlines : ∀ e ∈ events, e.OneLine) (hout : Output acts out) :
    ∃ k n tail, Framed events acts r out k n tail := by
  induction h generalizing out with
  | stopped =>
    obtain rfl := hout
    exact ⟨0, 0, [], .stopped⟩
  | @passed event rest acts r t after ih =>
    obtain ⟨hline, hlines⟩ := List.forall_mem_cons.1 hlines
    simp only [Output, OutputPiece.chars] at hout
    obtain ⟨_, rfl, _, rfl, out, rfl, hout⟩ := hout
    obtain ⟨k, n, tail, hframed⟩ := ih hlines hout
    exact ⟨k + 1, n + 1, tail, hframed.passed hline t⟩
  | brokeOff broken => exact ⟨0, broken.framed (hlines _ (List.mem_cons_self ..)) hout⟩

/-- So is what a dispatch of the outbox wrote. -/
theorem Draining.framed {limit : UInt32} (h : Draining ctx limit acts r)
    (hlines : ∀ e ∈ handedOut acts, e.OneLine) (hout : Output acts out) :
    ∃ k n tail, Framed (handedOut acts) acts r out k n tail := by
  cases h with
  | refused fault =>
    obtain rfl := hout
    exact ⟨0, 0, [], { Framed.stopped with counted := fun m hm => nomatch hm }⟩
  | given dispatching =>
    obtain ⟨k, n, tail, hframed⟩ := dispatching.framed hlines hout
    exact ⟨k, n, tail, { hframed with stamped := hframed.stamped }⟩

end Job

namespace Outlet

variable {ω : Type} {o : Outlet ω} {w : Desk ω} {ctx : RequestContext} {limit : UInt32}
  {event : OutboxEvent} {rest : List OutboxEvent} {out₁ out₂ out₃ : ω} {reason : String}

end Outlet

end RideLedger
