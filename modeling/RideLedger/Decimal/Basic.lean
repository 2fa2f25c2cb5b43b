import RideLedger.Rounding

/-!
# Decimal numbers

A decimal is a sign, a whole mantissa below `2 ^ 96` and a number of fractional
digits, its scale, of at most 28. Two decimals can be equal in value and differ
in scale; both scales print.

Each operation computes the exact result and brings it to the largest scale at
which its rounded mantissa fits (`fit?`), so digits are lost only when there is
no room for them, and the result is missing only when its whole part has no
room. Scales are free otherwise: a sum keeps the larger one, a product adds
them, a quotient takes as many as it needs, in blocks (`div?`).
-/

namespace RideLedger

/-- A signed decimal number: `±mantissa / 10 ^ scale`. -/
structure Decimal where
  /-- Whether a minus sign is written; zero may carry one. -/
  negative : Bool
  /-- The digits, as a whole number. -/
  mantissa : Nat
  /-- How many of the digits are fractional. -/
  scale : Nat
  mantissa_lt : mantissa < 2 ^ 96 := by decide
  scale_le : scale ≤ 28 := by decide
deriving DecidableEq, Repr

namespace Decimal

/-- Mantissas stay below this bound. -/
abbrev mantissaBound : Nat := 2 ^ 96

/-- The largest number of fractional digits. -/
abbrev maxScale : Nat := 28

/-- The mantissa with its sign. -/
def signed (d : Decimal) : Int := if d.negative then -(d.mantissa : Int) else d.mantissa

def zero : Decimal := { negative := false, mantissa := 0, scale := 0 }

instance : Inhabited Decimal := ⟨zero⟩

/-- Whether the value is zero, whatever its scale or sign. -/
def isZero (d : Decimal) : Bool := d.mantissa == 0

/-- The larger of two scales. -/
def commonScale (a b : Decimal) : Nat := max a.scale b.scale

theorem commonScale_le (a b : Decimal) : commonScale a b ≤ maxScale :=
  Nat.max_le.2 ⟨a.scale_le, b.scale_le⟩

theorem scale_sub_le (d : Decimal) (places : Nat) : d.scale - places ≤ maxScale :=
  Nat.le_trans (Nat.sub_le _ _) d.scale_le

/-- The signed mantissa at a scale that is at least the decimal's own. -/
def atScale (d : Decimal) (s : Nat) : Int := d.signed * (10 ^ (s - d.scale) : Nat)

/-- Compares two decimals by value. -/
def compare (a b : Decimal) : Ordering :=
  Ord.compare (a.atScale (commonScale a b)) (b.atScale (commonScale a b))

/-- Equality of value; scales and the sign of zero do not matter. -/
def sameValue (a b : Decimal) : Bool := a.compare b == .eq

/-- Whether `a` is below `b` in value. -/
def lt (a b : Decimal) : Bool := a.compare b == .lt

/-- A whole number below the bound. -/
def ofNat (n : Nat) (h : n < mantissaBound) : Decimal :=
  { negative := false, mantissa := n, scale := 0, mantissa_lt := h }

/-- A decimal from a signed mantissa; zero comes out without a sign. -/
def ofSigned (m : Int) (scale : Nat) (hm : m.natAbs < mantissaBound) (hs : scale ≤ maxScale) :
    Decimal :=
  { negative := decide (m < 0), mantissa := m.natAbs, scale := scale
    mantissa_lt := hm, scale_le := hs }

/-- The number of hundredths `cents`, as an amount with two fractional digits. -/
def ofCents? (cents : Int) : Option Decimal :=
  if h : cents.natAbs < mantissaBound then some (ofSigned cents 2 h (by decide)) else none

/-- `±num / den` at the largest scale, not above `top`, at which the rounded
mantissa fits; nothing if it does not fit even as a whole number. A result that
rounds to zero has no sign. -/
def fit? (negative : Bool) (num den : Nat) : (top : Nat) → top ≤ maxScale → Option Decimal
  | 0, _ =>
    if h : nearestEven num den < mantissaBound then
      some { negative := negative && nearestEven num den != 0
             mantissa := nearestEven num den, scale := 0, mantissa_lt := h }
    else none
  | top + 1, ht =>
    if h : nearestEven (num * 10 ^ (top + 1)) den < mantissaBound then
      some { negative := negative && nearestEven (num * 10 ^ (top + 1)) den != 0
             mantissa := nearestEven (num * 10 ^ (top + 1)) den, scale := top + 1
             mantissa_lt := h, scale_le := ht }
    else fit? negative num den top (by omega)

/-- A signed exact value over a power of ten, brought to fit. -/
def fitSigned? (m : Int) (scale : Nat) (h : scale ≤ maxScale) : Option Decimal :=
  fit? (decide (m < 0)) m.natAbs (10 ^ scale) scale h

/-- The opposite number; the sign of zero flips too. -/
def neg (d : Decimal) : Decimal := { d with negative := !d.negative }

/-- The number without its sign. -/
def abs (d : Decimal) : Decimal := { d with negative := false }

/-- The sum, at the larger scale if it fits there. A zero operand gives the
other one as it is. -/
def add? (a b : Decimal) : Option Decimal :=
  if a.isZero then some b
  else if b.isZero then some a
  else
    let s := commonScale a b
    fitSigned? (a.atScale s + b.atScale s) s (commonScale_le a b)

/-- The difference, at the larger scale if it fits there. -/
def sub? (a b : Decimal) : Option Decimal :=
  if a.isZero then some (if b.isZero then b else b.neg)
  else if b.isZero then some a
  else
    let s := commonScale a b
    fitSigned? (a.atScale s - b.atScale s) s (commonScale_le a b)

/-- The product; its scale is the sum of the scales if that fits. -/
def mul? (a b : Decimal) : Option Decimal :=
  if a.isZero || b.isZero then some zero
  else
    fit? (a.negative != b.negative) (a.mantissa * b.mantissa) (10 ^ (a.scale + b.scale))
      (min maxScale (a.scale + b.scale)) (Nat.min_le_left _ _)

/-- Drops zeros from the end of the fraction; zero becomes a plain `0`. -/
def normalize (d : Decimal) : Decimal :=
  if d.isZero then zero else go d.mantissa d.scale d.mantissa_lt d.scale_le
where
  /-- One digit less for each zero at the end. -/
  go (m : Nat) : (s : Nat) → m < mantissaBound → s ≤ maxScale → Decimal
    | 0, hm, _ => { negative := d.negative, mantissa := m, scale := 0, mantissa_lt := hm }
    | s + 1, hm, hs =>
      if m % 10 = 0 then
        go (m / 10) s (Nat.lt_of_le_of_lt (Nat.div_le_self m 10) hm) (Nat.le_of_succ_le hs)
      else
        { negative := d.negative, mantissa := m, scale := s + 1, mantissa_lt := hm, scale_le := hs }

/-- Drops `places` zeros from the end of the fraction, if there are so many. -/
def dropZeros (d : Decimal) (places : Nat) : Decimal :=
  if d.mantissa % 10 ^ places = 0 ∧ places ≤ d.scale then
    { d with
      mantissa := d.mantissa / 10 ^ places
      scale := d.scale - places
      mantissa_lt := Nat.lt_of_le_of_lt (Nat.div_le_self _ _) d.mantissa_lt
      scale_le := d.scale_sub_le places }
  else d

/-- Drops zeros from the end of the fraction, at most seven; eight more go each
time that the low 32 bits of the mantissa are empty. -/
def shortened (d : Decimal) : Decimal := (((eights d 3).dropZeros 4).dropZeros 2).dropZeros 1
where
  /-- Eight zeros at a time. -/
  eights (d : Decimal) : Nat → Decimal
    | 0 => d
    | times + 1 => if d.mantissa % 2 ^ 32 = 0 then eights (d.dropZeros 8) times else d

/-- The scale that the division of two mantissas stops at. Its digits come in
blocks of nine: it stops behind the block at which it comes out whole, and else
at the largest scale. -/
def stopScale (num den : Nat) (scale : Int) : (blocks : Nat) → Nat
  | 0 => maxScale
  | blocks + 1 =>
    if num % den = 0 then min scale.toNat maxScale
    else stopScale (num * 10 ^ 9) den (scale + 9) blocks

theorem stopScale_le (num den : Nat) (scale : Int) (blocks : Nat) :
    stopScale num den scale blocks ≤ maxScale := by
  induction blocks generalizing num scale with
  | zero => exact Nat.le_refl _
  | succ blocks ih =>
    unfold stopScale
    split
    · exact Nat.min_le_right _ _
    · exact ih _ _

/-- The quotient; nothing for a zero divisor. Mantissas that divide evenly keep
the difference of the scales. Any others take as many blocks of digits as they
need and as there is room for, and lose zeros afterwards. -/
def div? (a b : Decimal) : Option Decimal :=
  if b.isZero then none
  else if a.isZero then some zero
  else
    -- seven blocks lead from the smallest difference of scales beyond the largest scale
    let quotient :=
      fit? (a.negative != b.negative) (a.mantissa * 10 ^ (b.scale - a.scale))
        (b.mantissa * 10 ^ (a.scale - b.scale))
        (stopScale a.mantissa b.mantissa (a.scale - b.scale) 7) (stopScale_le ..)
    if a.mantissa % b.mantissa = 0 then quotient else quotient.map shortened

/-- At most `places` fractional digits: a longer fraction is rounded, a half to
the even neighbour, and then zero has no sign. -/
def round (d : Decimal) (places : Nat) : Decimal :=
  if h : d.scale ≤ places then d
  else
    let m := nearestEven d.mantissa (10 ^ (d.scale - places))
    { negative := d.negative && m != 0
      mantissa := m
      scale := places
      mantissa_lt := nearestEven_lt d.mantissa_lt (by omega)
      scale_le := Nat.le_trans (Nat.le_of_lt (Nat.lt_of_not_le h)) d.scale_le }
where
  /-- A mantissa that loses digits stays below the bound. -/
  nearestEven_lt {m k : Nat} (hm : m < mantissaBound) (hk : 0 < k) :
      nearestEven m (10 ^ k) < mantissaBound := by
    have hpow : 10 ^ 1 ≤ 10 ^ k := Nat.pow_le_pow_right (by decide) hk
    have hdiv : m / 10 ^ k ≤ m / 10 ^ 1 := Nat.div_le_div_left hpow (by decide)
    have := nearestEven_le_succ m (10 ^ k)
    simp only [mantissaBound] at *
    omega

theorem round_scale_le (d : Decimal) (places : Nat) : (d.round places).scale ≤ places := by
  unfold round
  split <;> simp_all

end Decimal

end RideLedger
