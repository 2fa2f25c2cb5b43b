import RideLedger.Decimal.Text
import RideLedger.Fault
import RideLedger.Json.Basic
import RideLedger.Text.Blank

/-!
# Amounts of money

An amount is a decimal with at most four fractional digits; every constructor
and every operation rounds to four, a half to the even neighbour. All amounts
are in one currency.

An operation comes in two forms: the checked one reports a result without room
as a `MoneyError`, the other one as a `RangeFault`.
-/

namespace RideLedger

/-- The code of the only currency. -/
def currencyCode : String := "USD"

/-- The number of fractional digits amounts are rounded to. -/
abbrev moneyScale : Nat := 4

/-- Why an amount could not be had. -/
inductive MoneyError
  | invalidAmount (text : String)
  | divisionByZero
  | overflow
deriving DecidableEq, Repr

/-- The wording of an error. -/
def MoneyError.message : MoneyError → String
  | .invalidAmount text => "Invalid amount: " ++ text
  | .divisionByZero => "Division by zero"
  | .overflow => "Overflow during calculation"

/-- An amount of money. -/
structure Money where
  amount : Decimal
  scale_le : amount.scale ≤ moneyScale := by decide
deriving DecidableEq, Repr

namespace Money

/-- The decimal, rounded to four fractional digits. -/
def ofDecimal (d : Decimal) : Money :=
  { amount := d.round moneyScale, scale_le := d.round_scale_le moneyScale }

def zero : Money := { amount := Decimal.zero }

instance : Inhabited Money := ⟨zero⟩

/-- A whole number of cents; nothing if it has no room. -/
def ofCents? (cents : Int) : Option Money := (Decimal.ofCents? cents).map ofDecimal

/-- Whether the amount is zero. -/
def isZero (m : Money) : Bool := m.amount.isZero

/-- Whether the amount is above zero. -/
def isPositive (m : Money) : Bool := !m.amount.negative && !m.amount.isZero

/-- Whether the amount is below zero. -/
def isNegative (m : Money) : Bool := m.amount.negative && !m.amount.isZero

/-- The amount without its sign. -/
def abs (m : Money) : Money := { amount := m.amount.abs, scale_le := m.scale_le }

/-- The opposite amount. -/
def neg (m : Money) : Money := ofDecimal m.amount.neg

/-- The amount rounded to whole cents. -/
def roundToCents (m : Money) : Money := ofDecimal (m.amount.round 2)

/-- Compares two amounts by value. -/
def compare (a b : Money) : Ordering := a.amount.compare b.amount

/-- Equality of value. -/
def sameValue (a b : Money) : Bool := a.amount.sameValue b.amount

/-- The sum, or `overflow`. -/
def checkedAdd (a b : Money) : Except MoneyError Money :=
  match a.amount.add? b.amount with
  | some d => .ok (ofDecimal d)
  | none => .error .overflow

/-- The difference, or `overflow`. -/
def checkedSub (a b : Money) : Except MoneyError Money :=
  match a.amount.sub? b.amount with
  | some d => .ok (ofDecimal d)
  | none => .error .overflow

/-- The quotient by a scalar; the divisor may not be zero. -/
def divide (m : Money) (divisor : Decimal) : Except MoneyError Money :=
  if divisor.isZero then .error .divisionByZero
  else match m.amount.div? divisor with
    | some d => .ok (ofDecimal d)
    | none => .error .overflow

/-- The sum. -/
def add (a b : Money) : Except RangeFault Money :=
  (RangeFault.addition.get (a.amount.add? b.amount)).map ofDecimal

/-- The difference. -/
def sub (a b : Money) : Except RangeFault Money :=
  (RangeFault.subtraction.get (a.amount.sub? b.amount)).map ofDecimal

/-- The product with a scalar. -/
def multiply (m : Money) (factor : Decimal) : Except RangeFault Money :=
  (RangeFault.multiplication.get (m.amount.mul? factor)).map ofDecimal

/-- The quotient by a scalar. -/
def div (m : Money) (divisor : Decimal) : Except RangeFault Money :=
  if divisor.isZero then .error .zeroDivisor
  else (RangeFault.division.get (m.amount.div? divisor)).map ofDecimal

/-- The sum of a list, from the left. -/
def sum (ms : List Money) : Except RangeFault Money := ms.foldlM add zero

/-- Reads an amount: blanks around it and dollar signs in front of it are
skipped. -/
def parse (text : String) : Except MoneyError Money :=
  let digits := (trimBlank text.toList).dropWhile (· = '$')
  match Decimal.ofText? (String.ofList digits) with
  | some d => .ok (ofDecimal d)
  | none => .error (.invalidAmount text)

/-- The amount as shown: two fractional digits, the rest cut off, and the minus
sign in front of the dollar sign. -/
def display (m : Money) : String :=
  if m.isNegative then "-$" ++ m.amount.abs.truncatedText 2
  else "$" ++ m.amount.truncatedText 2

instance : ToString Money := ⟨display⟩

end Money

/-! ## Documents -/

/-- The decimal of a document: a whole number, a fraction by its shortest text,
or a text. -/
def Decimal.ofJson? : Json → Option Decimal
  | .integer n =>
    if h : n.natAbs < Decimal.mantissaBound then some (.ofSigned n 0 h (by decide)) else none
  | .fraction x => Decimal.ofText? x.plainText
  | .string s => Decimal.ofText? s
  | _ => none

instance : ToJson Money := ⟨fun m => .string m.amount.toText⟩
instance : OfJson Money := ⟨fun j => (Decimal.ofJson? j).map Money.ofDecimal⟩

end RideLedger
