import RideLedger.Service.Request

/-!
# Sample data

Amounts, days, tenants and texts that rehearsals use where a script names
none. All of them lie around March 2024.
-/

namespace RideLedger

namespace Sample

/-! ## Amounts -/

/-- A number of cents as an amount. -/
def cents (n : Nat) (h : n < Decimal.mantissaBound := by decide) : Money :=
  { amount := { negative := false, mantissa := n, scale := 2, mantissa_lt := h }
    scale_le := show 2 ≤ 4 by decide }

def rideFare : Money := cents 2500
def shortRide : Money := cents 1250
def longRide : Money := cents 4875

/-- Less than a fare. -/
def partialPayment : Money := cents 1000

/-- More than a fare. -/
def overpayment : Money := cents 3000

/-! ## Days -/

/-- The first of March 2024. -/
def firstOfMarch : Date := { number := 19783 }

/-- The first of April 2024. -/
def firstOfApril : Date := { number := 19814 }

/-- The instant at which the clock starts: nine o'clock on the first of March. -/
def epoch : Instant := .ofSecond (19783 * secondsPerDay + 9 * 3600)

/-- Noon of a day of March. -/
def noonOfMarch? (day : Nat) : Option Instant := do
  let date ← Date.ofCivil? { year := 2024, month := 3, day := day }
  date.midnight.add? (12 * 3600 * nanosPerSecond)

/-- The first seven days of March. -/
def firstWeekOfMarch : BillingPeriod :=
  { start := firstOfMarch, finish := { number := 19790 } }

/-- All of March. -/
def wholeMarch : BillingPeriod := { start := firstOfMarch, finish := firstOfApril }

/-! ## Tenants and actors -/

def tenant : TenantId := ⟨{ value := 0x01900000000070008000000000000001 }⟩
def otherTenant : TenantId := ⟨{ value := 0x01900000000070008000000000000002 }⟩

/-- The context that scripts start with. -/
def operator : RequestContext := { tenant := tenant, actor := "operator" }

/-- A context of one of the two tenants. -/
def contextOf (other : Bool) (actor : String) : RequestContext :=
  let actor := trim actor
  { tenant := if other then otherTenant else tenant
    actor := if actor = "" then systemActor else actor }

/-- An account that was never opened. -/
def unknownAccount : AccountId := ⟨{ value := 7 }⟩

/-! ## Texts -/

def accountName : String := "Acme Logistics"

/-- A number with at least five digits. -/
def fiveDigits (n : Nat) : String :=
  let digits := Nat.repr n
  String.ofList (List.replicate (5 - digits.length) '0') ++ digits

def ride (n : Nat) : String := "ride-" ++ fiveDigits n
def payment (n : Nat) : String := "pay-" ++ fiveDigits n
def invoiceNumber : String := "INV-202403-000001"

end Sample

end RideLedger
