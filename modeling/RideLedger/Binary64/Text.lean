import RideLedger.Binary64.Shortest
import RideLedger.Decimal.Text

/-!
# Binary fractions from text

A text of a binary fraction has a sign, digits with at most one point, and an
exponent; it may also name the two infinities or no number at all. The value is
the fraction nearest to the exact decimal.
-/

namespace RideLedger

/-- What a text can stand for besides a fraction. -/
inductive FloatText
  | finite (x : Binary64)
  | infinite (negative : Bool)
  | notANumber
deriving DecidableEq

namespace FloatText

/-- The fraction nearest to `±digits * 10 ^ power`; a value beyond all fractions
is infinite. -/
def nearest (negative : Bool) (digits : Nat) (power : Int) : FloatText :=
  let magnitude : Int := (Nat.repr digits).length + power
  if digits = 0 ∨ magnitude < -330 then .finite { Binary64.zero with negative := negative }
  else if 320 < magnitude then .infinite negative
  else
    let r := if 0 ≤ power then Binary64.ofRatio? negative (digits * 10 ^ power.toNat) 1
      else Binary64.ofRatio? negative digits (10 ^ (-power).toNat)
    match r with
    | some x => .finite x
    | none => .infinite negative

/-- The exponent of a number: nothing, or a mark, a sign and digits. -/
def exponent? : List Char → Option Int
  | [] => some 0
  | c :: rest =>
    if c.toLower = 'e' then
      match rest with
      | '-' :: ds => (Decimal.natOfDigits? ds).map fun n => -(n : Int)
      | '+' :: ds => (Decimal.natOfDigits? ds).map Int.ofNat
      | ds => (Decimal.natOfDigits? ds).map Int.ofNat
    else none

/-- Reads a number behind its sign. -/
def unsigned? (negative : Bool) (cs : List Char) : Option FloatText :=
  let word := String.ofList (cs.map Char.toLower)
  if word = "inf" ∨ word = "infinity" then some (.infinite negative)
  else if word = "nan" then some .notANumber
  else do
    let whole := cs.takeWhile Char.isDigit
    let rest := cs.drop whole.length
    let (fraction, rest) := match rest with
      | '.' :: rest => (rest.takeWhile Char.isDigit, rest.dropWhile Char.isDigit)
      | rest => ([], rest)
    let digits ← Decimal.natOfDigits? (whole ++ fraction)
    let power ← exponent? rest
    some (nearest negative digits (power - fraction.length))

/-- Reads a number. -/
def ofText? (s : String) : Option FloatText :=
  match s.toList with
  | '-' :: rest => unsigned? true rest
  | '+' :: rest => unsigned? false rest
  | cs => unsigned? false cs

/-- The shortest text of the value. -/
def toText : FloatText → String
  | .finite x => x.plainText
  | .infinite negative => if negative then "-inf" else "inf"
  | .notANumber => "NaN"

/-- The nearest whole number, a half away from zero, brought into 64 bits. -/
def toWord : FloatText → Nat
  | .finite x =>
    let (num, den) := x.ratio
    if x.negative then 0 else min ((2 * num + den) / (2 * den)) (2 ^ 64 - 1)
  | .infinite negative => if negative then 0 else 2 ^ 64 - 1
  | .notANumber => 0

end FloatText

end RideLedger
