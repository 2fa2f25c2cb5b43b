import RideLedger.Identifier

/-!
# Fresh identifiers

Identifiers come from a supply that counts up. Each is greater than all before
it; its digits tell version 7, the version of identifiers in order of time. A
supply also gives identifiers of version 4, which have no order.
-/

namespace RideLedger

/-- The version that the digits of an identifier tell. -/
def Uuid.version (u : Uuid) : Nat := u.value / 2 ^ 76 % 16

/-- The first identifier in order. -/
def firstOrdered : Nat := 0x01950000000070008000000000000000

/-- The first identifier without order. -/
def firstScattered : Nat := 0x01950000000040008000000000000000

/-- How many identifiers were given out. -/
structure Supply where
  given : Nat
deriving DecidableEq

namespace Supply

def start : Supply := ⟨0⟩

/-- The identifier at a place behind those given out. -/
def ordered (s : Supply) (place : Nat) : Uuid := .ofNat (firstOrdered + s.given + place)

/-- The same without order. -/
def scattered (s : Supply) (place : Nat) : Uuid := .ofNat (firstScattered + s.given + place)

/-- The supply after giving out some identifiers. -/
def advance (s : Supply) (count : Nat) : Supply := ⟨s.given + count⟩

end Supply

/-- Whether an identifier may come from a supply. -/
def Uuid.isSupplied (u : Uuid) : Bool :=
  firstOrdered ≤ u.value && u.value < firstOrdered + 2 ^ 48

end RideLedger
