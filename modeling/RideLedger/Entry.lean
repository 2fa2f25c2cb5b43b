import RideLedger.BillingError

/-!
# Ledger entries

An entry is one side of a posting: it debits or credits one ledger account, in
the books of one billed account, with a positive amount. Entries are built by
`debit` and `credit`, or taken from storage by `rehydrate`; all three see to it
that exactly one side is positive. A stored entry never changes.
-/

namespace RideLedger

/-- What an entry needs besides its side and amount. -/
structure EntrySource where
  tenant : TenantId
  account : AccountId
  sourceType : SourceType
  reference : String
  createdAt : Instant
  createdBy : String
  description : Option String
deriving DecidableEq

/-- One side of a posting. -/
structure LedgerEntry where
  id : EntryId
  tenant : TenantId
  account : AccountId
  ledgerAccount : LedgerAccount
  debitAmount : Money
  creditAmount : Money
  sourceType : SourceType
  reference : String
  createdAt : Instant
  createdBy : String
  description : Option String
deriving DecidableEq

namespace LedgerEntry

/-- The reference without blanks at its ends; it may not be blank or too long. -/
def validReference (reference : String) : Except BillingError String :=
  let reference := trim reference
  if reference = "" then .error (.validation .blankReference)
  else if maxReferenceLength < reference.utf8ByteSize then .error (.validation .longReference)
  else .ok reference

/-- An entry on one side. The amount is positive and not too large. -/
def post (side : PostingSide) (id : EntryId) (ledgerAccount : LedgerAccount) (amount : Money)
    (source : EntrySource) : Except BillingError LedgerEntry := do
  if !amount.isPositive then throw (.validation (.amountNotPositive amount))
  if maxEntryAmount.lt amount.amount then throw (.validation (.amountTooLarge amount))
  return { id := id, tenant := source.tenant, account := source.account
           ledgerAccount := ledgerAccount
           debitAmount := if side = .debit then amount else Money.zero
           creditAmount := if side = .credit then amount else Money.zero
           sourceType := source.sourceType, reference := ← validReference source.reference
           createdAt := source.createdAt, createdBy := source.createdBy
           description := source.description }

/-- A debit entry. -/
def debit (id : EntryId) (ledgerAccount : LedgerAccount) (amount : Money) (source : EntrySource) :
    Except BillingError LedgerEntry :=
  post .debit id ledgerAccount amount source

/-- A credit entry. -/
def credit (id : EntryId) (ledgerAccount : LedgerAccount) (amount : Money)
    (source : EntrySource) : Except BillingError LedgerEntry :=
  post .credit id ledgerAccount amount source

/-- A stored entry with its sides and reference checked again. -/
def rehydrate (record : LedgerEntry) : Except BillingError LedgerEntry := do
  let oneSided := (record.debitAmount.isPositive && record.creditAmount.isZero)
    || (record.creditAmount.isPositive && record.debitAmount.isZero)
  if !oneSided then
    throw (.validation (.notOneSided record.id record.debitAmount record.creditAmount))
  return { record with reference := ← validReference record.reference }

/-- The side with the positive amount. -/
def side (e : LedgerEntry) : PostingSide := if e.debitAmount.isPositive then .debit else .credit

/-- The positive amount. -/
def amount (e : LedgerEntry) : Money :=
  match e.side with
  | .debit => e.debitAmount
  | .credit => e.creditAmount

/-- What the entry adds to the balance owed: only receivable entries count,
debits up and credits down. -/
def receivableDelta (e : LedgerEntry) : Money :=
  if e.ledgerAccount ≠ .accountsReceivable then Money.zero
  else match e.side with
    | .debit => e.debitAmount
    | .credit => e.creditAmount.neg

/-- A receivable debit of a ride: the only kind of entry that is invoiced. -/
def isBillable (e : LedgerEntry) : Bool :=
  e.sourceType = .rideCharge && e.ledgerAccount = .accountsReceivable && e.side = .debit

/-- A receivable credit of a payment. -/
def isPaymentCredit (e : LedgerEntry) : Bool :=
  e.sourceType = .payment && e.ledgerAccount = .accountsReceivable && e.side = .credit

/-- The day of the service. -/
def serviceDate (e : LedgerEntry) : Date := e.createdAt.date

/-- Orders entries by time, then by identifier. -/
def timeLe (a b : LedgerEntry) : Bool :=
  (compare a.createdAt b.createdAt).then (compare a.id b.id) != .gt

/-- The entries in order of time. -/
def sortByTime (entries : List LedgerEntry) : List LedgerEntry := entries.mergeSort timeLe

end LedgerEntry

instance : ToJson LedgerEntry where
  toJson e := .object
    [("id", toJson e.id), ("tenant_id", toJson e.tenant), ("account_id", toJson e.account),
      ("ledger_account", toJson e.ledgerAccount), ("debit_amount", toJson e.debitAmount),
      ("credit_amount", toJson e.creditAmount), ("source_type", toJson e.sourceType),
      ("source_reference_id", toJson e.reference), ("created_at", toJson e.createdAt),
      ("created_by", toJson e.createdBy), ("description", toJson e.description)]

end RideLedger
