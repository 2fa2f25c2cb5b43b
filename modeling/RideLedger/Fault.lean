/-!
# Arithmetic out of range

A result without a representation ends the whole computation: nothing after it
runs and nothing it did is kept. `RangeFault` says which operation it was.
-/

namespace RideLedger

/-- An operation whose result has no representation. -/
inductive RangeFault
  | addition
  | subtraction
  | multiplication
  | division
  | zeroDivisor
  | duration
  | instantSum
  | sequence
deriving DecidableEq, Repr

/-- The wording of a fault. -/
def RangeFault.message : RangeFault → String
  | .addition => "Addition overflowed"
  | .subtraction => "Subtraction overflowed"
  | .multiplication => "Multiplication overflowed"
  | .division => "Division overflowed"
  | .zeroDivisor => "Division by zero"
  | .duration => "TimeDelta::milliseconds out of bounds"
  | .instantSum => "`DateTime + TimeDelta` overflowed"
  | .sequence => "attempt to add with overflow"

/-- The value, or the fault of not having one. -/
def RangeFault.get {α : Type} (fault : RangeFault) : Option α → Except RangeFault α
  | some a => .ok a
  | none => .error fault

end RideLedger
