import RideLedger.Entry

/-!
# Transactions

A transaction is the unit that is appended to the ledger: one debit and one
credit of equal amount, of one event, for one account, on different ledger
accounts. Its key says which event it records; a key is recorded once.
-/

namespace RideLedger

/-- The event that a transaction records. -/
structure TransactionKey where
  account : AccountId
  sourceType : SourceType
  reference : String
deriving DecidableEq

namespace TransactionKey

/-- The shown form of a key. -/
def toText (k : TransactionKey) : String :=
  k.account.toText ++ "/" ++ Choice.word k.sourceType ++ "/" ++ k.reference

/-- The error of recording a key again. -/
def duplicate (k : TransactionKey) : BillingError :=
  .duplicateTransaction k.account k.sourceType k.reference

end TransactionKey

/-- A debit and a credit that balance. -/
structure LedgerTransaction where
  id : TransactionId
  debit : LedgerEntry
  credit : LedgerEntry
deriving DecidableEq

/-- The identifiers of a transaction and its entries. -/
structure TransactionIds where
  transaction : TransactionId
  debit : EntryId
  credit : EntryId

namespace LedgerTransaction

/-- Puts two entries together. They balance, lie on different sides, and agree
in tenant, account and source. -/
def new (id : TransactionId) (first second : LedgerEntry) : Outcome LedgerTransaction := do
  let debits ← Money.sum [first.debitAmount, second.debitAmount]
  let credits ← Money.sum [first.creditAmount, second.creditAmount]
  if !debits.sameValue credits then throw (.unbalanced debits.amount credits.amount)
  let (debit, credit) ← match first.side, second.side with
    | .debit, .credit => pure (first, second)
    | .credit, .debit => pure (second, first)
    | _, _ => Outcome.refuse .sidesMissing
  if debit.tenant ≠ credit.tenant then Outcome.refuse .spansTenants
  if debit.account ≠ credit.account then Outcome.refuse .spansAccounts
  if debit.sourceType ≠ credit.sourceType ∨ debit.reference ≠ credit.reference then
    Outcome.refuse .sourcesDiffer
  if debit.ledgerAccount = credit.ledgerAccount then
    Outcome.refuse (.sameLedgerAccount debit.ledgerAccount)
  return { id := id, debit := debit, credit := credit }

/-- A transaction from a source: an amount debited to one ledger account and
credited to another. -/
def post (ids : TransactionIds) (debited credited : LedgerAccount) (amount : Money)
    (source : EntrySource) : Outcome LedgerTransaction := do
  let debit ← Outcome.ofExcept (LedgerEntry.debit ids.debit debited amount source)
  let credit ← Outcome.ofExcept (LedgerEntry.credit ids.credit credited amount source)
  new ids.transaction debit credit

/-- A ride: the amount is owed, and earned. -/
def rideCharge (ids : TransactionIds) (tenant : TenantId) (account : AccountId) (ride : String)
    (amount : Money) (createdAt : Instant) (createdBy : String) (description : Option String) :
    Outcome LedgerTransaction :=
  post ids .accountsReceivable .serviceRevenue amount
    { tenant := tenant, account := account, sourceType := .rideCharge, reference := ride
      createdAt := createdAt, createdBy := createdBy
      description := some (description.getD "Ride charge") }

/-- A payment: the amount is received, and no longer owed. -/
def payment (ids : TransactionIds) (tenant : TenantId) (account : AccountId) (payment : String)
    (amount : Money) (createdAt : Instant) (createdBy : String) (description : Option String) :
    Outcome LedgerTransaction :=
  post ids .cash .accountsReceivable amount
    { tenant := tenant, account := account, sourceType := .payment, reference := payment
      createdAt := createdAt, createdBy := createdBy
      description := some (description.getD "Payment received") }

def tenant (t : LedgerTransaction) : TenantId := t.debit.tenant
def account (t : LedgerTransaction) : AccountId := t.debit.account
def sourceType (t : LedgerTransaction) : SourceType := t.debit.sourceType
def reference (t : LedgerTransaction) : String := t.debit.reference
def amount (t : LedgerTransaction) : Money := t.debit.debitAmount
def createdAt (t : LedgerTransaction) : Instant := t.debit.createdAt

/-- The entries, the debit first. -/
def entries (t : LedgerTransaction) : List LedgerEntry := [t.debit, t.credit]

/-- The event the transaction records. -/
def key (t : LedgerTransaction) : TransactionKey :=
  { account := t.account, sourceType := t.sourceType, reference := t.reference }

end LedgerTransaction

instance : ToJson TransactionKey where
  toJson k := .object
    [("account_id", toJson k.account), ("source_type", toJson k.sourceType),
      ("source_reference_id", toJson k.reference)]

instance : OfJson TransactionKey where
  ofJson? j := do
    match ← j.fields? ["account_id", "source_type", "source_reference_id"] 0 with
    | [account, source, reference] =>
      some { account := ← Json.required? account, sourceType := ← Json.required? source
             reference := ← Json.required? reference }
    | _ => none

end RideLedger
