import RideLedger.Binary64.Basic

/-!
# The shortest decimal that reads back

A binary fraction is written with the fewest decimal digits that read back as
the same fraction, and of those with the ones nearest to it. `shortest` finds
them in exact arithmetic: for one digit, two digits, and so on it tries the two
neighbours of the value on that decimal grid. Seventeen digits always suffice.
Where both neighbours are equally near, the rounding rule decides: a document
takes the even one (`documentText`), plain digits take the larger one
(`plainText`).
-/

namespace RideLedger

/-- Decimal digits and the power of ten of the last one. -/
structure DecimalDigits where
  digits : Nat
  power : Int
deriving DecidableEq, Repr

namespace Binary64

/-- A real interval between two quotients over one denominator. -/
structure Interval where
  low : Nat
  high : Nat
  den : Nat
  /-- Whether the ends belong to the interval. -/
  closed : Bool

/-- The positive reals that are rounded to the fraction: up to halfway to each
neighbour. Halfway belongs to an even mantissa. -/
def interval (x : Binary64) : Interval :=
  let unit := if 0 ≤ x.exponent then 2 ^ x.exponent.toNat else 1
  let den := if 0 ≤ x.exponent then 1 else 2 ^ (-x.exponent).toNat
  -- below a power of two the neighbours are twice as dense
  let dense := x.mantissa = mantissaBound / 2 ∧ minExponent < x.exponent
  { low := (4 * x.mantissa - (if dense then 1 else 2)) * unit
    high := (4 * x.mantissa + 2) * unit
    den := 4 * den
    closed := x.mantissa % 2 = 0 }

/-- Whether `num / den` lies in the interval. -/
def Interval.holds (i : Interval) (num den : Nat) : Bool :=
  let below := i.low * den
  let value := num * i.den
  let above := i.high * den
  if i.closed then below ≤ value && value ≤ above else below < value && value < above

/-- `digits * 10 ^ power` as a quotient of natural numbers. -/
def DecimalDigits.ratio (d : DecimalDigits) : Nat × Nat :=
  if 0 ≤ d.power then (d.digits * 10 ^ d.power.toNat, 1) else (d.digits, 10 ^ (-d.power).toNat)

/-- The decimal exponent of a positive quotient: the `e` with
`10 ^ e ≤ num / den < 10 ^ (e + 1)`. -/
def decimalExponent (num den : Nat) : Int :=
  if den ≤ num then ((Nat.repr (num / den)).length : Int) - 1
  else
    let d := (Nat.repr (den / num)).length
    if den ≤ num * 10 ^ (d - 1) then -((d : Int) - 1) else -(d : Int)

/-- A rule that brings a quotient to one of the two whole numbers next to it. -/
abbrev RoundingRule := Nat → Nat → Nat

/-- The point nearest to `num / den` on the grid of `10 ^ power`, if one of the
two neighbours lies in the interval. -/
def onGrid? (rule : RoundingRule) (i : Interval) (num den : Nat) (power : Int) :
    Option DecimalDigits :=
  let (n, d) :=
    if 0 ≤ power then (num, den * 10 ^ power.toNat) else (num * 10 ^ (-power).toNat, den)
  let nearest := rule n d
  let other := if nearest = n / d then n / d + 1 else n / d
  let inside (m : Nat) : Bool :=
    let (a, b) := DecimalDigits.ratio { digits := m, power := power }
    i.holds a b
  if inside nearest then some { digits := nearest, power := power }
  else if inside other then some { digits := other, power := power }
  else none

/-- The first grid with a hit, from `digits` digits on. -/
def search (rule : RoundingRule) (i : Interval) (num den : Nat) (top : Int) :
    (fuel : Nat) → DecimalDigits
  | 0 => { digits := nearestEven (num * 10 ^ (-(top - 17)).toNat) (den * 10 ^ (top - 17).toNat)
           power := top - 17 }
  | fuel + 1 =>
    match onGrid? rule i num den (top - (16 - fuel)) with
    | some d => d
    | none => search rule i num den top fuel

/-- Drops zeros at the end of the digits. -/
def DecimalDigits.trim (d : DecimalDigits) : (fuel : Nat) → DecimalDigits
  | 0 => d
  | fuel + 1 =>
    if d.digits ≠ 0 ∧ d.digits % 10 = 0 then
      DecimalDigits.trim { digits := d.digits / 10, power := d.power + 1 } fuel
    else d

/-- The fewest digits that read back as the fraction. -/
def shortest (rule : RoundingRule) (x : Binary64) : DecimalDigits :=
  if x.mantissa = 0 then { digits := 0, power := 0 }
  else
    let (num, den) := x.ratio
    DecimalDigits.trim (search rule x.interval num den (decimalExponent num den) 17) 18

/-- The digits with a point, never with an exponent. -/
def positional (d : DecimalDigits) : String :=
  if 0 ≤ d.power then Nat.repr (d.digits * 10 ^ d.power.toNat)
  else
    let places := (-d.power).toNat
    let fraction := Nat.repr (d.digits % 10 ^ places)
    Nat.repr (d.digits / 10 ^ places) ++ "."
      ++ String.ofList (List.replicate (places - fraction.length) '0') ++ fraction

/-- A fraction as plain digits: a whole one has no point. -/
def plainText (x : Binary64) : String :=
  (if x.negative then "-" else "") ++ positional (x.shortest nearestUp)

/-- A fraction as a document writes it: up to sixteen digits before the point
and up to five zeros behind it are written out, and a whole fraction ends in
`.0`; any other has an exponent with its sign. -/
def documentText (x : Binary64) : String :=
  let d := x.shortest nearestEven
  let text := Nat.repr d.digits
  let point : Int := text.length + d.power
  let body :=
    if d.digits = 0 then "0.0"
    else if 0 ≤ d.power ∧ point ≤ 16 then positional d ++ ".0"
    else if -5 < point ∧ point ≤ 16 then positional d
    else
      let tail := String.ofList (text.toList.drop 1)
      String.ofList (text.toList.take 1) ++ (if tail = "" then "" else "." ++ tail)
        ++ "e" ++ (if 0 < point then "+" else "") ++ toString (point - 1)
  (if x.negative then "-" else "") ++ body

end Binary64

end RideLedger
