import RideLedger.Decimal.Basic

/-!
# Decimal numbers as text

A decimal is written as its sign, its whole part and exactly `scale` fractional
digits (`toText`), or with a fixed number of them, the rest cut off
(`truncatedText`).

Reading (`ofText?`) takes an optional sign, digits with at most one point, and
underscores after the first digit; then, if that fails, a mantissa and an
exponent. A fraction with more digits than there is room for is rounded, a half
away from zero, and so is one that an exponent makes too small.
-/

namespace RideLedger

namespace Decimal

/-- The decimal digits of a number, at least `width` of them. -/
def digits (n width : Nat) : String :=
  let text := Nat.repr n
  String.ofList (List.replicate (width - text.length) '0') ++ text

/-- `whole.fraction` with the given number of fractional digits. -/
def pointed (mantissa places : Nat) : String :=
  if places = 0 then Nat.repr mantissa
  else Nat.repr (mantissa / 10 ^ places) ++ "." ++ digits (mantissa % 10 ^ places) places

/-- The number with a minus sign in front if it carries one. -/
def withSign (negative : Bool) (text : String) : String :=
  if negative then "-" ++ text else text

/-- The written form: every digit of the scale is shown. -/
def toText (d : Decimal) : String :=
  withSign d.negative (pointed d.mantissa d.scale)

/-- The number with exactly `places` fractional digits: missing ones are zeros,
digits beyond them are cut off. -/
def truncatedText (d : Decimal) (places : Nat) : String :=
  withSign d.negative (pointed (d.mantissa * 10 ^ places / 10 ^ d.scale) places)

instance : ToString Decimal := ⟨toText⟩

/-! ## Reading -/

/-- The value of a decimal digit. -/
def digit? (c : Char) : Option Nat :=
  if '0' ≤ c ∧ c ≤ '9' then some (c.toNat - '0'.toNat) else none

/-- What has been read of a number so far. -/
structure Reading where
  negative : Bool
  /-- The point has been passed. -/
  pointed : Bool
  /-- There was a digit. -/
  started : Bool
  mantissa : Nat
  scale : Nat

namespace Reading

/-- The decimal read; a number needs a digit, and zero gets no sign. -/
def finish? (r : Reading) : Option Decimal :=
  if h : r.mantissa < mantissaBound ∧ r.scale ≤ maxScale then
    if r.started then
      some { negative := r.negative && r.mantissa != 0, mantissa := r.mantissa, scale := r.scale
             mantissa_lt := h.1, scale_le := h.2 }
    else none
  else none

/-- Closes a number that has no room for another digit. Digits and underscores
may follow; a first digit of five or more rounds the number up, and one place
less is kept if that has no room either. -/
def close? (r : Reading) (rest : List Char) : Option Decimal := do
  match ← (rest.filter (· ≠ '_')).mapM digit? with
  | [] => finish? r
  | d :: _ =>
    if d < 5 then finish? r
    else if r.mantissa + 1 < mantissaBound then finish? { r with mantissa := r.mantissa + 1 }
    else if r.scale = 0 then none
    else finish? { r with mantissa := (r.mantissa + 5) / 10, scale := r.scale - 1 }

/-- Reads the characters of a number behind its sign. -/
def run? (r : Reading) : List Char → Option Decimal
  | [] => finish? r
  | c :: rest =>
    if r.pointed ∧ r.scale = maxScale then close? r (c :: rest)
    else match digit? c with
      | some d =>
        if mantissaBound ≤ r.mantissa * 10 + d then
          if r.pointed then close? r (c :: rest) else none
        else
          run? { r with started := true, mantissa := r.mantissa * 10 + d
                        scale := if r.pointed then r.scale + 1 else 0 } rest
      | none =>
        if c = '.' ∧ ¬ r.pointed then run? { r with pointed := true } rest
        else if c = '_' ∧ r.started then run? r rest
        else none

end Reading

/-- A number before its first character. -/
def Reading.start (negative : Bool) : Reading :=
  { negative := negative, pointed := false, started := false, mantissa := 0, scale := 0 }

/-- Reads a number without an exponent. -/
def ofPlain? : List Char → Option Decimal
  | '-' :: rest => (Reading.start true).run? rest
  | '+' :: rest => (Reading.start false).run? rest
  | text => (Reading.start false).run? text

/-- The value of a run of digits; nothing for an empty run or another
character. -/
def natOfDigits? : List Char → Option Nat
  | [] => none
  | cs => cs.foldlM (fun n c => (digit? c).map (n * 10 + ·)) 0

/-- An exponent without a minus sign; a plus may stand in front, and it stays
below `2 ^ 32`. -/
def exponent? (text : List Char) : Option Nat := do
  let n ← natOfDigits? (match text with | '+' :: rest => rest | cs => cs)
  if n < 2 ^ 32 then some n else none

/-- Moves the point to the left, by no more than the largest scale. The scale
grows, and digits that it has no room for are rounded off. -/
def lower? (d : Decimal) (places : Nat) : Option Decimal :=
  if maxScale < places then none
  else if h : d.scale + places ≤ maxScale then
    some { d with scale := d.scale + places, scale_le := h }
  else
    some { d with
      mantissa := nearestUp d.mantissa (10 ^ (d.scale + places - maxScale))
      scale := maxScale
      mantissa_lt := nearestUp_lt d.mantissa_lt (by omega)
      scale_le := Nat.le_refl _ }
where
  /-- A mantissa that loses digits stays below the bound. -/
  nearestUp_lt {m k : Nat} (hm : m < mantissaBound) (hk : 0 < k) :
      nearestUp m (10 ^ k) < mantissaBound := by
    have hpow : 10 ^ 1 ≤ 10 ^ k := Nat.pow_le_pow_right (by decide) hk
    have := nearestUp_le_succ m (10 ^ k)
    have hdiv : m / 10 ^ k ≤ m / 10 ^ 1 := Nat.div_le_div_left hpow (by decide)
    simp only [mantissaBound] at *
    omega

/-- Moves the point to the right: first the scale shrinks, then zeros are
added. -/
def raise? (d : Decimal) (places : Nat) : Option Decimal :=
  if places ≤ d.scale then
    some { d with scale := d.scale - places, scale_le := d.scale_sub_le places }
  else if places ≤ maxScale then
    if d.isZero then some zero
    else
      (fit? d.negative (d.mantissa * 10 ^ places) (10 ^ d.scale) d.scale d.scale_le).map normalize
  else none

/-- Reads a mantissa and an exponent, divided by the first `e` or `E`. -/
def ofScientific? (text : List Char) : Option Decimal := do
  let isMark (c : Char) : Bool := c = 'e' || c = 'E'
  let base ← ofPlain? (text.takeWhile (!isMark ·))
  match text.dropWhile (!isMark ·) with
  | [] => none
  | _ :: '-' :: rest => do base.lower? (← exponent? rest)
  | _ :: rest => do base.raise? (← exponent? rest)

/-- Reads a decimal: a plain number, or else one with an exponent. -/
def ofText? (text : String) : Option Decimal :=
  ofPlain? text.toList <|> ofScientific? text.toList

end Decimal

end RideLedger
