import Mathlib.Data.List.Forall2
import RideLedger.BillingError

/-!
# Results — taking apart computations that can fail

An arithmetic computation ends in a value or a range fault (`Except RangeFault`), a billing
computation in a value, an error or a range fault (`Outcome`). The lemmas here turn "the parts in a
row give this value" into what each part gives.
-/

namespace RideLedger

variable {α β ε : Type}

section Except

variable {x : Except ε α} {f : α → Except ε β} {a : α} {b : β} {err : ε}

@[simp] theorem ok_bind : (Except.ok a : Except ε α) >>= f = f a := rfl

@[simp] theorem error_bind : (Except.error err : Except ε α) >>= f = .error err := rfl

/-- Two parts give a value when the first gives one and the second gives the value from it. -/
theorem bind_eq_ok : x >>= f = .ok b ↔ ∃ a, x = .ok a ∧ f a = .ok b := by
  cases x <;> simp

/-- A computation behind a guard gives what it gives when the guard lets it pass. -/
@[simp] theorem guard_throw_eq_ok {c : Prop} [Decidable c] {k : α → Except ε β}
    {y : Except ε β} : (if c then throw err >>= k else y) = .ok b ↔ ¬c ∧ y = .ok b := by
  split
  · next h =>
    constructor
    · exact fun hthrow => nomatch hthrow
    · exact fun hpass => absurd h hpass.1
  · next h => simp [h]

/-- A computation that succeeds on every item of a list succeeds on the list. -/
theorem mapM_ok {P : α → β → Prop} {items : List α} (h : ∀ a ∈ items, ∃ b, f a = .ok b ∧ P a b) :
    ∃ results, items.mapM f = .ok results ∧ List.Forall₂ P items results := by
  induction items with
  | nil => exact ⟨[], rfl, .nil⟩
  | cons a rest ih =>
    obtain ⟨b, hb, hP⟩ := h a (List.mem_cons_self ..)
    obtain ⟨results, hresults, hrest⟩ := ih fun a' ha' => h a' (List.mem_cons_of_mem _ ha')
    exact ⟨b :: results, by rw [List.mapM_cons, hb, ok_bind, hresults]; rfl, .cons hP hrest⟩

end Except

namespace Outcome

variable {x : Outcome α} {f : α → Outcome β} {a : α} {b : β}

/-- A billing computation has a value. -/
abbrev Gives (x : Outcome α) (a : α) : Prop := x.run = .ok (.ok a)

theorem gives_bind : (x >>= f).Gives b ↔ ∃ a, x.Gives a ∧ (f a).Gives b := by
  change (x.run >>= ExceptT.bindCont f) = _ ↔ _
  constructor
  · intro h
    obtain ⟨r, hr, hf⟩ := bind_eq_ok.1 h
    cases r with
    | ok a => exact ⟨a, hr, hf⟩
    | error e => cases hf
  · rintro ⟨a, ha, hb⟩
    exact bind_eq_ok.2 ⟨.ok a, ha, hb⟩

@[simp] theorem gives_pure {a' : α} : (pure a : Outcome α).Gives a' ↔ a = a' := by
  change (Except.ok (Except.ok a) : Except RangeFault (Except BillingError α)) = _ ↔ _
  simp

@[simp] theorem not_gives_throw {err : BillingError} : ¬(throw err : Outcome α).Gives a :=
  fun h => nomatch h

@[simp] theorem not_gives_refuse {reason : Refusal} : ¬(refuse reason : Outcome α).Gives a :=
  fun h => nomatch h

/-- An arithmetic computation as a billing computation. -/
@[simp] theorem gives_lift {r : Except RangeFault α} :
    (liftM r : Outcome α).Gives a ↔ r = .ok a := by
  cases r with
  | ok a' => exact gives_pure.trans (by simp)
  | error fault => exact ⟨fun h => (nomatch h), fun h => (nomatch h)⟩

@[simp] theorem gives_ofExcept {r : Except BillingError α} :
    (ofExcept r).Gives a ↔ r = .ok a := by
  change (Except.ok r : Except RangeFault (Except BillingError α)) = _ ↔ _
  simp

section Guard

variable {c : Prop} [Decidable c] {y : Outcome β} {k : α → Outcome β}

@[simp] theorem gives_guard_throw {err : BillingError} :
    (if c then throw err >>= k else y).Gives b ↔ ¬c ∧ y.Gives b := by
  split
  · next h => simp [h]
  · next h => simp [h]

@[simp] theorem gives_guard_refuse {reason : Refusal} :
    (if c then refuse reason >>= k else y).Gives b ↔ ¬c ∧ y.Gives b := by
  split
  · next h => simp [h, gives_bind]
  · next h => simp [h]

/-- A computation that stays in range: it comes to a value, or to an error of its own. -/
abbrev InRange (x : Outcome α) : Prop := ∃ r, x.run = .ok r

theorem inRange_pure : (pure a : Outcome α).InRange := ⟨_, rfl⟩

theorem inRange_refuse {reason : Refusal} : (refuse reason : Outcome α).InRange := ⟨_, rfl⟩

theorem inRange_ofExcept {r : Except BillingError α} : (ofExcept r).InRange := ⟨r, rfl⟩

theorem inRange_bind (hx : x.InRange) (hf : ∀ a, x.Gives a → (f a).InRange) :
    (x >>= f).InRange := by
  obtain ⟨r, hr⟩ := hx
  change ∃ r, (x.run >>= ExceptT.bindCont f) = .ok r
  rw [hr]
  cases r with
  | ok a => exact hf a hr
  | error err => exact ⟨.error err, rfl⟩

/-- What follows arithmetic that stays in range. -/
theorem inRange_lift_bind {r : Except RangeFault α} (hr : r = .ok a) (hf : (f a).InRange) :
    ((liftM r : Outcome α) >>= f).InRange := by
  subst hr
  exact hf

theorem inRange_guard_throw {err : BillingError} (hy : y.InRange) :
    (if c then throw err >>= k else y).InRange := by
  split
  · exact ⟨_, rfl⟩
  · exact hy

theorem inRange_guard_refuse {reason : Refusal} (hy : y.InRange) :
    (if c then refuse reason >>= k else y).InRange :=
  inRange_guard_throw hy

end Guard

end Outcome

end RideLedger
