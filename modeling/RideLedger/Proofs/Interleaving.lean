import Mathlib.Logic.Function.Basic
import Mathlib.Logic.Relation
import RideLedger.MemoryStore
import RideLedger.Plan

/-!
# Interleaving — plans that run side by side on one store

A plan's steps are atomic, and between two of them other plans and other writers may take theirs.
This file gives the step relation of a plan (`Plan.Step`), of a system of clients that share a
store (`System.Step`), and its runs (`System.Run`). What surrounds a client — its clock, its
source of identifiers, its cancellation — is not fixed: `Surroundings` says only what each of them
may answer, and every answer that it admits is a step of its own.

A plan that runs alone in a world is one of the runs of a system (`System.run_of_world`).
-/

namespace RideLedger

/-- What a client may be told by everything but the store. -/
structure Surroundings where
  /-- The instants its clock may show. -/
  clock : Instant → Prop
  /-- What its cancellation may read. -/
  token : Bool → Prop
  /-- The identifiers that a draw of some of them may give. -/
  draw : Nat → (Nat → Uuid) → Prop

namespace Surroundings

/-- Surroundings whose draws give different identifiers at different places, as long as there are
enough of them. -/
def Distinct (e : Surroundings) : Prop :=
  ∀ {count ids}, e.draw count ids → count ≤ 2 ^ 128 →
    ∀ {a b}, a < count → b < count → ids a = ids b → a = b

/-- Surroundings in which anything may happen, but for one identifier at two places of a draw. -/
def any : Surroundings where
  clock _ := True
  token _ := True
  draw count ids := count ≤ 2 ^ 128 → ∀ {a b}, a < count → b < count → ids a = ids b → a = b

theorem any_distinct : any.Distinct := fun h => h

/-- Surroundings that have an answer to whatever they are asked. -/
structure Answers (e : Surroundings) : Prop where
  clock : ∃ t, e.clock t
  token : ∃ b, e.token b
  draw : ∀ count, ∃ ids, e.draw count ids

/-- Surroundings in which the clock stands still and nobody cancels. -/
def still (now : Instant) : Surroundings where
  clock t := t = now
  token b := b = false
  draw := any.draw

end Surroundings

variable {ι α : Type}

/-- One atomic step of a plan on the store. A request whose arithmetic runs out of range ends the
plan and leaves the store as it was. -/
inductive Plan.Step (e : Surroundings) : Plan α → MemoryStore → Plan α → MemoryStore → Prop
  | now {next t s} (shown : e.clock t) : Step e (.now next) s (next t) s
  | fresh {count next ids s} (drawn : e.draw count ids) :
      Step e (.fresh count next) s (next ids) s
  | cancelled {next b s} (read : e.token b) : Step e (.cancelled next) s (next b) s
  | ask {request next b s answer s'} (read : e.token b)
      (served : s.serve b request = .ok (answer, s')) :
      Step e (.ask request next) s (next answer) s'
  | overrun {request next b s fault} (read : e.token b)
      (served : s.serve b request = .error fault) :
      Step e (.ask request next) s (.fail fault) s
  | write {piece next result s} : Step e (.write piece next) s (next result) s

/-- A store and what each of its clients has left to do. -/
structure System (ι α : Type) where
  store : MemoryStore
  rest : ι → Plan α

namespace System

variable [DecidableEq ι]

/-- A step of a system: one of its clients takes a step, or somebody else has a request served
that others may make. -/
inductive Step (e : ι → Surroundings) (others : StoreRequest → Prop) :
    System ι α → System ι α → Prop
  | client {σ : System ι α} {p s} (i : ι) (taken : Plan.Step (e i) (σ.rest i) σ.store p s) :
      Step e others σ ⟨s, Function.update σ.rest i p⟩
  | other {σ : System ι α} {request b answer s} (allowed : others request)
      (served : σ.store.serve b request = .ok (answer, s)) :
      Step e others σ ⟨s, σ.rest⟩

/-- Any number of steps. -/
abbrev Run (e : ι → Surroundings) (others : StoreRequest → Prop) :
    System ι α → System ι α → Prop :=
  Relation.ReflTransGen (Step e others)

variable {e : ι → Surroundings} {others : StoreRequest → Prop} {σ σ' : System ι α}

/-- What every step keeps holds at the end of a run. -/
theorem Run.keeps {P : System ι α → Prop} (run : Run e others σ σ')
    (step : ∀ {σ σ'}, P σ → Step e others σ σ' → P σ') (h : P σ) : P σ' := by
  induction run with
  | refl => exact h
  | tail _ taken ih => exact step ih taken

/-- A run where fewer requests come in between is a run where more may. -/
theorem Run.mono {more : StoreRequest → Prop} (h : ∀ request, others request → more request)
    (run : Run e others σ σ') : Run e more σ σ' := by
  refine Relation.ReflTransGen.mono (fun _ _ taken => ?_) _ _ run
  cases taken with
  | client i taken => exact .client i taken
  | other allowed served => exact .other (h _ allowed) served

/-- A client that is done takes no more steps. -/
theorem Step.done {i : ι} {a : α} (taken : Step e others σ σ') (h : σ.rest i = .done a) :
    σ'.rest i = .done a := by
  cases taken with
  | @client p s j taken =>
    by_cases hj : i = j
    · subst hj
      rw [h] at taken
      cases taken
    · simpa [hj] using h
  | other => exact h

/-- What a client has ended with is final. -/
theorem Run.done {i : ι} {a : α} (run : Run e others σ σ') (h : σ.rest i = .done a) :
    σ'.rest i = .done a :=
  run.keeps (fun h taken => taken.done h) h

/-- A step of a plan is a step of the system in which it is what a client has left to do. -/
theorem Step.of_plan {i : ι} {rest : ι → Plan α} {p p' : Plan α} {s s' : MemoryStore}
    (taken : Plan.Step (e i) p s p' s') :
    Step e others ⟨s, Function.update rest i p⟩ ⟨s', Function.update rest i p'⟩ := by
  have step : Step e others ⟨s, Function.update rest i p⟩
      ⟨s', Function.update (Function.update rest i p) i p'⟩ := .client i (by simpa using taken)
  rwa [Function.update_idem] at step

end System

/-! ## Running alone -/

/-- A world whose answers are those of a store in some surroundings; `store` finds the store in a
state of the world. -/
structure Plan.World.FitsIn {W : Type} (world : Plan.World W) (store : W → MemoryStore)
    (e : Surroundings) : Prop where
  clock : ∀ w, e.clock (world.now w)
  token : ∀ w, e.token (world.cancelled w)
  draw : ∀ w count, e.draw count (world.fresh count w).1
  fresh_store : ∀ w count, store (world.fresh count w).2 = store w
  write_store : ∀ w piece, store (world.write piece w).2 = store w
  served : ∀ {w request answer w'}, world.serve request w = .ok (answer, w') →
    ∃ b, e.token b ∧ (store w).serve b request = .ok (answer, store w')

/-- **A plan that a world runs to its end is run to its end by a system too**, by steps of that
client alone. -/
theorem System.run_of_world [DecidableEq ι] {W : Type} {world : Plan.World W}
    {store : W → MemoryStore} {e : ι → Surroundings} {others : StoreRequest → Prop} {i : ι}
    (fits : world.FitsIn store (e i)) {p : Plan α} {w w' : W} {a : α}
    (h : p.run world w = .ok (a, w')) (rest : ι → Plan α) :
    Run e others ⟨store w, Function.update rest i p⟩
      ⟨store w', Function.update rest i (.done a)⟩ := by
  induction p generalizing w with
  | done b =>
    obtain ⟨rfl, rfl⟩ : b = a ∧ w = w' := by simpa [Plan.run] using h
    exact .refl
  | fail fault => simp [Plan.run] at h
  | now next ih => exact .head (.of_plan (.now (fits.clock w))) (ih _ h)
  | fresh count next ih =>
    -- drawing identifiers leaves the store as it is, so the rest starts from the same one
    have tail := ih _ h
    rw [fits.fresh_store] at tail
    exact .head (.of_plan (.fresh (fits.draw w count))) tail
  | cancelled next ih => exact .head (.of_plan (.cancelled (fits.token w))) (ih _ h)
  | ask request next ih =>
    cases hserve : world.serve request w with
    | error fault =>
      -- then the world would not have come to its end
      simp only [Plan.run, hserve] at h
      cases h
    | ok reply =>
      obtain ⟨answer, w₁⟩ := reply
      simp only [Plan.run, hserve] at h
      obtain ⟨b, hread, hserved⟩ := fits.served hserve
      exact .head (.of_plan (.ask hread hserved)) (ih answer h)
  | write piece next ih =>
    have tail := ih _ h
    rw [fits.write_store] at tail
    exact .head (.of_plan .write) tail

/-- A store on its own: the clock stands still, identifiers come from a supply, nobody cancels and
nobody else writes. -/
structure Quiet where
  now : Instant
  supply : Supply
  store : MemoryStore

namespace Quiet

/-- The world of a store on its own. -/
def world : Plan.World Quiet where
  now w := w.now
  fresh count w := (w.supply.ordered, { w with supply := w.supply.advance count })
  cancelled _ := false
  serve request w := do
    let (answer, s) ← w.store.serve false request
    return (answer, { w with store := s })
  write _ w := (.ok (), w)

/-- The identifiers of a supply differ from place to place. -/
theorem ordered_inj {supply : Supply} {count a b : Nat} (hcount : count ≤ 2 ^ 128)
    (ha : a < count) (hb : b < count) (h : supply.ordered a = supply.ordered b) : a = b := by
  have hmod : (firstOrdered + supply.given + a) % 2 ^ 128 =
      (firstOrdered + supply.given + b) % 2 ^ 128 := congrArg Uuid.value h
  generalize firstOrdered + supply.given = base at hmod
  omega

/-- What happens on its own may happen in any surroundings. -/
theorem fits : world.FitsIn Quiet.store .any where
  clock _ := trivial
  token _ := trivial
  draw _ _ hcount _ _ ha hb h := ordered_inj hcount ha hb h
  fresh_store _ _ := rfl
  write_store _ _ := rfl
  served := by
    intro w request answer w' h
    cases hserve : w.store.serve false request with
    | error fault =>
      simp only [world, hserve] at h
      cases h
    | ok reply =>
      obtain ⟨answer', s⟩ := reply
      simp only [world, hserve] at h
      cases h
      exact ⟨false, trivial, hserve⟩

/-- The next step of a plan. -/
def next (w : Quiet) : Plan α → Plan α × Quiet
  | .done a => (.done a, w)
  | .fail fault => (.fail fault, w)
  | .now next => (next w.now, w)
  | .fresh count next =>
    (next w.supply.ordered, { w with supply := w.supply.advance count })
  | .cancelled next => (next false, w)
  | .ask request next =>
    match w.store.serve false request with
    | .ok (answer, s) => (next answer, { w with store := s })
    | .error fault => (.fail fault, w)
  | .write _ next => (next (.ok ()), w)

/-- A next step is a step, unless the plan is at its end. -/
theorem step_next (w : Quiet) (p : Plan α) :
    w.next p = (p, w) ∨
      Plan.Step (.still w.now) p w.store (w.next p).1 (w.next p).2.store := by
  cases p with
  | done => exact .inl rfl
  | fail => exact .inl rfl
  | now next => exact .inr (.now rfl)
  | fresh count next =>
    exact .inr (.fresh fun hcount _ _ ha hb h => ordered_inj hcount ha hb h)
  | cancelled next => exact .inr (.cancelled rfl)
  | ask request next =>
    cases hserve : w.store.serve false request with
    | error fault =>
      simp only [Quiet.next, hserve]
      exact .inr (.overrun rfl hserve)
    | ok reply =>
      simp only [Quiet.next, hserve]
      exact .inr (.ask rfl hserve)
  | write piece next => exact .inr .write

/-- The clock stands still. -/
theorem now_next (w : Quiet) (p : Plan α) : (w.next p).2.now = w.now := by
  cases p with
  | ask request next =>
    cases hserve : w.store.serve false request <;> simp only [Quiet.next, hserve]
  | _ => rfl

variable [DecidableEq ι]

/-- The clients of a system take their next steps in the given order. -/
def play (w : Quiet) (rest : ι → Plan α) : List ι → Quiet × (ι → Plan α)
  | [] => (w, rest)
  | i :: order => (w.next (rest i)).2.play (Function.update rest i (w.next (rest i)).1) order

/-- **Steps in a given order are a run.** -/
theorem run_play {others : StoreRequest → Prop} (w : Quiet) (rest : ι → Plan α)
    (order : List ι) :
    System.Run (fun _ => .still w.now) others ⟨w.store, rest⟩
      ⟨(w.play rest order).1.store, (w.play rest order).2⟩ := by
  induction order generalizing w rest with
  | nil => exact .refl
  | cons i order ih =>
    rcases w.step_next (rest i) with hend | hstep
    · -- a client at its end takes no step, and its turn passes
      have hplay : w.play rest (i :: order) = w.play rest order := by
        rw [play, hend, Function.update_eq_self]
      exact hplay ▸ ih w rest
    · have htail := ih (w.next (rest i)).2 (Function.update rest i (w.next (rest i)).1)
      rw [w.now_next] at htail
      exact .head (.client i hstep) htail

end Quiet

end RideLedger
