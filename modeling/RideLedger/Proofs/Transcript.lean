import RideLedger.Proofs.Discipline

/-!
# Transcripts — runs with what was asked and answered

A run of a system says where it began and where it ended. Its transcript (`System.Transcript`) says
what happened in between: every request that was served, the answer that was given, and the client
that got it, in the order of the steps. Every run has a transcript, and what has a transcript is a
run (`System.run_iff_transcript`).
-/

namespace RideLedger

/-- A request and the answer that it was given. -/
structure Exchange where
  request : StoreRequest
  answer : request.Answer

variable {ι α : Type}

namespace Plan

/-- One atomic step of a plan, and its exchange with the store if it has one. -/
inductive Move (e : Surroundings) :
    Plan α → MemoryStore → Option Exchange → Plan α → MemoryStore → Prop
  | now {next t s} (shown : e.clock t) : Move e (.now next) s none (next t) s
  | fresh {count next ids s} (drawn : e.draw count ids) :
      Move e (.fresh count next) s none (next ids) s
  | cancelled {next b s} (read : e.token b) : Move e (.cancelled next) s none (next b) s
  | ask {request next b s answer s'} (read : e.token b)
      (served : s.serve b request = .ok (answer, s')) :
      Move e (.ask request next) s (some ⟨request, answer⟩) (next answer) s'
  | overrun {request next b s fault} (read : e.token b)
      (served : s.serve b request = .error fault) :
      Move e (.ask request next) s none (.fail fault) s
  | write {piece next result s} : Move e (.write piece next) s none (next result) s

variable {e : Surroundings} {p p' : Plan α} {s s' : MemoryStore} {x : Option Exchange}

theorem Move.step (taken : Move e p s x p' s') : Step e p s p' s' := by
  cases taken with
  | now shown => exact .now shown
  | fresh drawn => exact .fresh drawn
  | cancelled read => exact .cancelled read
  | ask read served => exact .ask read served
  | overrun read served => exact .overrun read served
  | write => exact .write

theorem Step.move (taken : Step e p s p' s') : ∃ x, Move e p s x p' s' := by
  cases taken with
  | now shown => exact ⟨none, .now shown⟩
  | fresh drawn => exact ⟨none, .fresh drawn⟩
  | cancelled read => exact ⟨none, .cancelled read⟩
  | ask read served => exact ⟨some _, .ask read served⟩
  | overrun read served => exact ⟨none, .overrun read served⟩
  | write => exact ⟨none, .write⟩

/-- A step without an exchange leaves the store as it is, and a step with one is the answer to a
request. -/
theorem Move.store (taken : Move e p s x p' s') :
    (x = none ∧ s' = s) ∨ ∃ request next b answer, x = some ⟨request, answer⟩ ∧
      p = .ask request next ∧ p' = next answer ∧ e.token b ∧
      s.serve b request = .ok (answer, s') := by
  cases taken with
  | ask read served => exact .inr ⟨_, _, _, _, rfl, rfl, rfl, read, served⟩
  | _ => exact .inl ⟨rfl, rfl⟩

end Plan

namespace System

variable [DecidableEq ι]

/-- A run with its exchanges, in their order; those of others have no client. -/
inductive Transcript (e : ι → Surroundings) (others : StoreRequest → Prop) (start : System ι α) :
    List (Option ι × Exchange) → System ι α → Prop
  | begin : Transcript e others start [] start
  | client {lines σ x p s} (before : Transcript e others start lines σ) (i : ι)
      (taken : Plan.Move (e i) (σ.rest i) σ.store x p s) :
      Transcript e others start (lines ++ (x.map fun exchange => (some i, exchange)).toList)
        ⟨s, Function.update σ.rest i p⟩
  | other {lines σ request b answer s} (before : Transcript e others start lines σ)
      (allowed : others request) (served : σ.store.serve b request = .ok (answer, s)) :
      Transcript e others start (lines ++ [(none, ⟨request, answer⟩)]) ⟨s, σ.rest⟩

variable {e : ι → Surroundings} {others : StoreRequest → Prop} {σ σ' : System ι α}
  {lines : List (Option ι × Exchange)}

theorem Transcript.run (h : Transcript e others σ lines σ') : Run e others σ σ' := by
  induction h with
  | begin => exact .refl
  | client before i taken ih => exact ih.tail (.client i taken.step)
  | other before allowed served ih => exact ih.tail (.other allowed served)

/-- **Every run has a transcript.** -/
theorem run_iff_transcript : Run e others σ σ' ↔ ∃ lines, Transcript e others σ lines σ' := by
  constructor
  · intro run
    induction run with
    | refl => exact ⟨[], .begin⟩
    | tail _ taken ih =>
      obtain ⟨lines, before⟩ := ih
      cases taken with
      | client i taken =>
        obtain ⟨x, hx⟩ := taken.move
        exact ⟨_, .client before i hx⟩
      | other allowed served => exact ⟨_, .other before allowed served⟩
  · rintro ⟨lines, h⟩
    exact h.run

/-! ## The lines of one client -/

/-- What a client exchanged with the store. -/
def exchangesOf (i : ι) (lines : List (Option ι × Exchange)) : List Exchange :=
  lines.filterMap fun line => if line.1 = some i then some line.2 else none

@[simp] theorem exchangesOf_nil (i : ι) : exchangesOf i [] = [] := rfl

@[simp] theorem exchangesOf_append (i : ι) (more : List (Option ι × Exchange)) :
    exchangesOf i (lines ++ more) = exchangesOf i lines ++ exchangesOf i more :=
  List.filterMap_append

@[simp] theorem exchangesOf_own (i : ι) (x : Option Exchange) :
    exchangesOf i (x.map fun exchange => (some i, exchange)).toList = x.toList := by
  cases x <;> simp [exchangesOf]

theorem exchangesOf_other {i : ι} {who : Option ι} (hwho : who ≠ some i) (x : Option Exchange) :
    exchangesOf i (x.map fun exchange => (who, exchange)).toList = [] := by
  cases x <;> simp [exchangesOf, hwho]

/-- **What a client has left to do depends on its own exchanges.** A relation between the exchanges
so far and the rest of a plan that every step of a plan keeps holds of every client, at the end of
every run. -/
theorem Transcript.tracks {P : List Exchange → Plan α → Prop} (h : Transcript e others σ lines σ')
    (i : ι) (hstart : P [] (σ.rest i))
    (hmove : ∀ {past p s x p' s'}, P past p → Plan.Move (e i) p s x p' s' →
      P (past ++ x.toList) p') : P (exchangesOf i lines) (σ'.rest i) := by
  induction h with
  | begin => exact hstart
  | @client lines σ x p s before j taken ih =>
    rw [exchangesOf_append]
    by_cases hj : i = j
    · subst hj
      simpa using hmove ih taken
    · rw [exchangesOf_other fun h => hj (Option.some.inj h).symm]
      simpa [hj] using ih
  | other before allowed served ih =>
    rw [exchangesOf_append]
    simpa [exchangesOf] using ih

/-- A transcript goes on where another one ends. -/
theorem Transcript.trans {σ'' : System ι α} {more : List (Option ι × Exchange)}
    (h : Transcript e others σ lines σ') (h' : Transcript e others σ' more σ'') :
    Transcript e others σ (lines ++ more) σ'' := by
  induction h' with
  | begin => simpa using h
  | client before i taken ih =>
    rw [← List.append_assoc]
    exact .client ih i taken
  | other before allowed served ih =>
    rw [← List.append_assoc]
    exact .other ih allowed served

end System

/-! ## The transcript of steps in a given order -/

namespace Quiet

/-- What the next step of a plan exchanges with the store. -/
def said (w : Quiet) : Plan α → Option Exchange
  | .ask request _ =>
    match w.store.serve false request with
    | .ok (answer, _) => some ⟨request, answer⟩
    | .error _ => none
  | _ => none

/-- A next step has that exchange, unless the plan is at its end. -/
theorem move_next (w : Quiet) (p : Plan α) :
    (w.next p = (p, w) ∧ w.said p = none) ∨
      Plan.Move (.still w.now) p w.store (w.said p) (w.next p).1 (w.next p).2.store := by
  cases p with
  | done => exact .inl ⟨rfl, rfl⟩
  | fail => exact .inl ⟨rfl, rfl⟩
  | now next => exact .inr (.now rfl)
  | fresh count next =>
    exact .inr (.fresh fun hcount _ _ ha hb h => ordered_inj hcount ha hb h)
  | cancelled next => exact .inr (.cancelled rfl)
  | ask request next =>
    cases hserve : w.store.serve false request with
    | error fault =>
      simp only [Quiet.next, said, hserve]
      exact .inr (.overrun rfl hserve)
    | ok reply =>
      simp only [Quiet.next, said, hserve]
      exact .inr (.ask rfl hserve)
  | write piece next => exact .inr .write

variable [DecidableEq ι]

/-- What the clients of a system exchange with the store in their next steps. -/
def minutes (w : Quiet) (rest : ι → Plan α) : List ι → List (Option ι × Exchange)
  | [] => []
  | i :: order =>
    ((w.said (rest i)).map fun exchange => (some i, exchange)).toList ++
      (w.next (rest i)).2.minutes (Function.update rest i (w.next (rest i)).1) order

/-- **Steps in a given order have their exchanges for a transcript.** -/
theorem transcript_play {others : StoreRequest → Prop} (w : Quiet) (rest : ι → Plan α)
    (order : List ι) :
    System.Transcript (fun _ => .still w.now) others ⟨w.store, rest⟩ (w.minutes rest order)
      ⟨(w.play rest order).1.store, (w.play rest order).2⟩ := by
  induction order generalizing w rest with
  | nil => exact .begin
  | cons i order ih =>
    rcases w.move_next (rest i) with ⟨hend, hsaid⟩ | hmove
    · -- a client at its end takes no step, and its turn passes
      have hplay : w.play rest (i :: order) = w.play rest order := by
        rw [play, hend, Function.update_eq_self]
      have hminutes : w.minutes rest (i :: order) = w.minutes rest order := by
        rw [minutes, hend, hsaid, Function.update_eq_self]
        rfl
      exact hplay ▸ hminutes ▸ ih w rest
    · have htail := ih (w.next (rest i)).2 (Function.update rest i (w.next (rest i)).1)
      rw [w.now_next] at htail
      exact (System.Transcript.client .begin i hmove).trans htail

end Quiet

end RideLedger
