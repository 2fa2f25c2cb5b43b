import RideLedger.Rounding

/-!
# Binary fractions of 64 bits

The numbers that a document can hold besides whole ones are binary fractions
`±mantissa * 2 ^ exponent` with a mantissa of 53 bits. An exact quotient is
brought to the nearest of them, a half to the even mantissa (`ofRatio?`), and
the quotients and products here are exact ones so rounded. A quotient too large
has no nearest fraction.
-/

namespace RideLedger

/-- A finite binary fraction `±mantissa * 2 ^ exponent`. -/
structure Binary64 where
  negative : Bool
  mantissa : Nat
  exponent : Int
deriving DecidableEq, Repr

namespace Binary64

/-- Mantissas stay below this bound. -/
abbrev mantissaBound : Nat := 2 ^ 53

/-- The exponent of the smallest fraction. -/
abbrev minExponent : Int := -1074

/-- The largest exponent. -/
abbrev maxExponent : Int := 971

def zero : Binary64 := { negative := false, mantissa := 0, exponent := minExponent }

/-- `num / den / 2 ^ exponent` as a quotient of natural numbers. -/
def scaled (num den : Nat) (exponent : Int) : Nat × Nat :=
  if 0 ≤ exponent then (num, den * 2 ^ exponent.toNat) else (num * 2 ^ (-exponent).toNat, den)

/-- The exponent at which `num / den` has 53 bits before the point, or the
smallest exponent. The estimate from the lengths is at most one too low. -/
def exponentOf (num den : Nat) : Int :=
  let low : Int := (num.log2 : Int) - den.log2 - 53
  let (n, d) := scaled num den low
  max minExponent (if n / d < mantissaBound then low else low + 1)

/-- The fraction nearest to `±num / den`. -/
def ofRatio? (negative : Bool) (num den : Nat) : Option Binary64 :=
  if num = 0 then some { zero with negative := negative }
  else
    let e := exponentOf num den
    let (n, d) := scaled num den e
    let m := nearestEven n d
    let (m, e) := if m = mantissaBound then (m / 2, e + 1) else (m, e)
    if maxExponent < e then none else some { negative := negative, mantissa := m, exponent := e }

/-- The value without its sign, as a quotient of natural numbers. -/
def ratio (x : Binary64) : Nat × Nat := 
  if 0 ≤ x.exponent then (x.mantissa * 2 ^ x.exponent.toNat, 1)
  else (x.mantissa, 2 ^ (-x.exponent).toNat)

/-- The fraction nearest to a whole number. -/
def ofNat? (n : Nat) : Option Binary64 := ofRatio? false n 1

/-- The product, rounded. -/
def mul? (x y : Binary64) : Option Binary64 :=
  ofRatio? (x.negative != y.negative) (x.ratio.1 * y.ratio.1) (x.ratio.2 * y.ratio.2)

/-- The quotient by a fraction other than zero, rounded. -/
def div? (x y : Binary64) : Option Binary64 :=
  ofRatio? (x.negative != y.negative) (x.ratio.1 * y.ratio.2) (x.ratio.2 * y.ratio.1)

/-- The fraction nearest to `10 ^ n`. -/
def powerOfTen? (n : Nat) : Option Binary64 := ofNat? (10 ^ n)

/-- The exponents of ten that one division or multiplication can take. -/
abbrev maxPower : Nat := 308

/-- `significand * 10 ^ exponent`, by one multiplication with a power of ten,
or by divisions through powers of ten. An exponent below all powers is taken in
several divisions; the value is zero when `fuel` of them are not enough. -/
def ofParts? (significand : Nat) (exponent : Int) : Option Binary64 := do
  let x ← ofNat? significand
  if 0 ≤ exponent then
    if significand = 0 then some zero
    else if exponent.toNat ≤ maxPower then x.mul? (← powerOfTen? exponent.toNat) else none
  else lower x (-exponent).toNat 4
where
  /-- Divides by a power of ten, in steps of at most the largest one. -/
  lower (x : Binary64) (power : Nat) : (fuel : Nat) → Option Binary64
    | 0 => some zero
    | fuel + 1 => do
      if power ≤ maxPower then x.div? (← powerOfTen? power)
      else lower (← x.div? (← powerOfTen? maxPower)) (power - maxPower) fuel

end Binary64

end RideLedger
