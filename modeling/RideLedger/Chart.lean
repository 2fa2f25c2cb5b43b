import RideLedger.Choice

/-!
# The chart of accounts

The ledger accounts that entries post to, the sides of a posting, and the
sources that produce one.
-/

namespace RideLedger

/-- The ledger accounts, in their order. -/
inductive LedgerAccount
  /-- Money owed by the billed party. -/
  | accountsReceivable
  /-- Revenue earned from rides. -/
  | serviceRevenue
  /-- Money received. -/
  | cash
deriving DecidableEq

/-- The event behind a posting. -/
inductive SourceType
  | rideCharge
  | payment
deriving DecidableEq

/-- The side of a posting. -/
inductive PostingSide
  | debit
  | credit
deriving DecidableEq

instance : Choice LedgerAccount where
  values := [.accountsReceivable, .serviceRevenue, .cash]
  name
    | .accountsReceivable => "AccountsReceivable"
    | .serviceRevenue => "ServiceRevenue"
    | .cash => "Cash"
  word
    | .accountsReceivable => "accounts_receivable"
    | .serviceRevenue => "service_revenue"
    | .cash => "cash"

instance : Choice SourceType where
  values := [.rideCharge, .payment]
  name
    | .rideCharge => "RideCharge"
    | .payment => "Payment"
  word
    | .rideCharge => "ride_charge"
    | .payment => "payment"

instance : Choice PostingSide where
  values := [.debit, .credit]
  name
    | .debit => "Debit"
    | .credit => "Credit"
  word
    | .debit => "debit"
    | .credit => "credit"

end RideLedger
