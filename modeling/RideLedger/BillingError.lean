import RideLedger.Chart
import RideLedger.Context
import RideLedger.Frequency
import RideLedger.StoreFault

/-!
# Billing errors

Why a billing operation was refused or failed. A `Refusal` is a broken rule of
the input; a `BillingError` is any outcome without a result, sorted into the
kinds a caller distinguishes. Only failures of the infrastructure may be
retried.
-/

namespace RideLedger

/-- A broken rule. -/
inductive Refusal
  /-- A word that names nothing of its kind. -/
  | unknownWord (kind word : String)
  /-- Texts of a request that are too short or too long. -/
  | lengths (fields : List String)
  | blankName
  | longName
  | amountNotPositive (amount : Money)
  | amountTooLarge (amount : Money)
  | blankReference
  | longReference
  | notOneSided (entry : EntryId) (debit credit : Money)
  | sidesMissing
  | spansTenants
  | spansAccounts
  | sourcesDiffer
  | sameLedgerAccount (account : LedgerAccount)
  | malformedNumber (text : String)
  | lineNotPositive (line : InvoiceLineId)
  | foreignEntry (entry : EntryId) (account : AccountId)
  | notBillable (entry : EntryId)
  | outsidePeriod (entry : EntryId)
  | listedTwice (entry : EntryId)
  | dueDateOutOfRange
  | subtotalDiffers (number : String) (subtotal lines : Money)
  | outstandingDiffers (number : String)
  | foreignLines (number : String)
  | strayEntry (entry : EntryId)
  | notOnSchedule
  | notRideCharge
  | period (e : TemporalError)
  /-- A rule of the store, in its words. -/
  | stated (text : String)
deriving DecidableEq

/-- The largest length of a name, in characters. -/
abbrev maxNameLength : Nat := 200

/-- The largest length of a reference, in bytes. -/
abbrev maxReferenceLength : Nat := 100

/-- The largest amount of an entry: nineteen digits, four of them fractional. -/
def maxEntryAmount : Decimal :=
  { negative := false, mantissa := 10 ^ 19 - 1, scale := 4 }

/-- The wording of a broken rule. -/
def Refusal.message : Refusal → String
  | .unknownWord kind word => "unknown " ++ kind ++ " '" ++ word ++ "'"
  | .lengths fields => "length of " ++ ", ".intercalate fields
  | .blankName => "account name must not be blank"
  | .longName => "account name must be at most " ++ Nat.repr maxNameLength ++ " characters"
  | .amountNotPositive amount => "entry amount must be positive, got " ++ amount.display
  | .amountTooLarge amount =>
    "entry amount " ++ amount.display ++ " exceeds the maximum of " ++ maxEntryAmount.toText
  | .blankReference => "source reference id must not be blank"
  | .longReference =>
    "source reference id must be at most " ++ Nat.repr maxReferenceLength ++ " bytes"
  | .notOneSided entry debit credit =>
    "entry " ++ entry.toText ++ " must have exactly one positive side (debit=" ++ debit.display
      ++ ", credit=" ++ credit.display ++ ")"
  | .sidesMissing => "a transaction needs exactly one debit and one credit entry"
  | .spansTenants => "transaction entries span tenants"
  | .spansAccounts => "transaction entries span accounts"
  | .sourcesDiffer => "transaction entries must share source type and source reference"
  | .sameLedgerAccount account =>
    "transaction debits and credits the same ledger account " ++ Choice.word account
  | .malformedNumber text => "malformed invoice number '" ++ text ++ "'"
  | .lineNotPositive line => "line item " ++ line.toText ++ " must have a positive amount"
  | .foreignEntry entry account =>
    "entry " ++ entry.toText ++ " does not belong to account " ++ account.toText
  | .notBillable entry => "entry " ++ entry.toText ++ " is not a billable ride charge"
  | .outsidePeriod entry => "entry " ++ entry.toText ++ " falls outside the billing period"
  | .listedTwice entry => "entry " ++ entry.toText ++ " listed twice"
  | .dueDateOutOfRange => "due date out of range"
  | .subtotalDiffers number subtotal lines =>
    "invoice " ++ number ++ " subtotal " ++ subtotal.display ++ " does not match its line items "
      ++ lines.display
  | .outstandingDiffers number => "invoice " ++ number ++ " outstanding balance is inconsistent"
  | .foreignLines number => "invoice " ++ number ++ " carries foreign line items"
  | .strayEntry entry => "entry " ++ entry.toText ++ " does not belong on this statement"
  | .notOnSchedule =>
    "per-ride invoices are generated when the charge is recorded, not on a schedule"
  | .notRideCharge => "per-ride invoices are only generated for ride charges"
  | .period e => e.message
  | .stated text => text

/-- The kinds of errors a caller distinguishes. -/
inductive ErrorKind
  | validation
  | notFound
  | conflict
  | unauthorized
  | cancelled
  | failure
deriving DecidableEq

/-- The name of a kind. -/
def ErrorKind.label : ErrorKind → String
  | .validation => "Validation"
  | .notFound => "NotFound"
  | .conflict => "Conflict"
  | .unauthorized => "Unauthorized"
  | .cancelled => "Cancelled"
  | .failure => "Failure"

/-- The kind with a name. -/
def ErrorKind.ofLabel? (s : String) : Option ErrorKind :=
  [validation, notFound, conflict, unauthorized, cancelled, failure].find? (·.label == s)

/-- An operation without a result. -/
inductive BillingError
  | validation (reason : Refusal)
  | unbalanced (debits credits : Decimal)
  | accountInactive (account : AccountId)
  | noUnbilledCharges (account : AccountId) (start finish : Date)
  | notFound (entity id : String)
  | duplicateTransaction (account : AccountId) (source : SourceType) (reference : String)
  | conflict (text : String)
  | immutable (text : String)
  | unauthorized (text : String)
  | cancelled
  | calculation (e : MoneyError)
  | storage (fault : StoreFault)
  | failure (text : String)
deriving DecidableEq

namespace BillingError

/-- The wording of an error. -/
def message : BillingError → String
  | .validation reason => "Validation error: " ++ reason.message
  | .unbalanced debits credits =>
    "Unbalanced transaction: debits=" ++ debits.toText ++ ", credits=" ++ credits.toText
  | .accountInactive account =>
    "Account " ++ account.toText ++ " is inactive and cannot receive transactions"
  | .noUnbilledCharges account start finish =>
    "No unbilled charges for account " ++ account.toText ++ " in period " ++ start.toText ++ ".."
      ++ finish.toText
  | .notFound entity id => entity ++ " not found: " ++ id
  | .duplicateTransaction account source reference =>
    "Duplicate transaction: " ++ Choice.word source ++ " " ++ reference
      ++ " already recorded for account " ++ account.toText
  | .conflict text => "Conflict: " ++ text
  | .immutable text => "Immutable record: " ++ text
  | .unauthorized text => "Unauthorized: " ++ text
  | .cancelled => "Operation cancelled before commit"
  | .calculation e => "Calculation error: " ++ e.message
  | .storage fault => "Storage failure: " ++ fault.message
  | .failure text => "Failure: " ++ text

/-- The name of an error. -/
def label : BillingError → String
  | .validation .. => "Validation"
  | .unbalanced .. => "UnbalancedTransaction"
  | .accountInactive .. => "AccountInactive"
  | .noUnbilledCharges .. => "NoUnbilledCharges"
  | .notFound .. => "NotFound"
  | .duplicateTransaction .. => "DuplicateTransaction"
  | .conflict .. => "Conflict"
  | .immutable .. => "Immutable"
  | .unauthorized .. => "Unauthorized"
  | .cancelled => "Cancelled"
  | .calculation .. => "Calculation"
  | .storage .. => "Storage"
  | .failure .. => "Failure"

/-- The kind of an error. -/
def kind : BillingError → ErrorKind
  | .validation .. | .unbalanced .. | .accountInactive .. | .noUnbilledCharges .. => .validation
  | .notFound .. => .notFound
  | .duplicateTransaction .. | .conflict .. | .immutable .. => .conflict
  | .unauthorized .. => .unauthorized
  | .cancelled => .cancelled
  | .calculation .. | .storage .. | .failure .. => .failure

/-- Whether the operation may be tried again as it is. -/
def isRetryable (e : BillingError) : Bool := e.kind = .failure

def isConflict (e : BillingError) : Bool := e.kind = .conflict
def isValidation (e : BillingError) : Bool := e.kind = .validation
def isNotFound (e : BillingError) : Bool := e.kind = .notFound

/-- What a store fault means for billing. -/
def ofStoreFault : StoreFault → BillingError
  | .notFound entity id => .notFound entity id
  | .validation text _ => .validation (.stated text)
  | .conflict text => .conflict text
  | .immutable entity id => .immutable (entity ++ " " ++ id)
  | .inactive entity id => .validation (.stated (StoreFault.inactive entity id).message)
  | .unauthorized text => .unauthorized text
  | .cancelled => .cancelled
  | fault => .storage fault

/-- A period that cannot be had is a broken rule. -/
def ofTemporal (e : TemporalError) : BillingError := .validation (.period e)

/-- What a request that could not begin means for billing. -/
def ofCore : CoreError → BillingError
  | .money e => .calculation e
  | .temporal e => ofTemporal e
  | .validation text => .validation (.stated text)
  | .unauthorized text => .unauthorized text

end BillingError

/-- A billing computation: a result or an error, unless arithmetic runs out of
range. -/
abbrev Outcome := ExceptT BillingError (Except RangeFault)

namespace Outcome

variable {α : Type}

/-- An outcome that is an error. -/
def refuse (reason : Refusal) : Outcome α := throw (.validation reason)

/-- A result, or a refusal. -/
def ofExcept (r : Except BillingError α) : Outcome α := ExceptT.mk (pure r)

/-- A period, or the refusal of one that cannot be had. -/
def ofTemporal (r : Except TemporalError α) : Outcome α :=
  ofExcept (match r with | .ok a => .ok a | .error e => .error (.ofTemporal e))

end Outcome

/-- The value with a word, or the refusal of an unknown one. -/
def Choice.parse {α : Type} [Choice α] (kind word : String) : Except BillingError α :=
  match Choice.ofWord? word with
  | some a => .ok a
  | none => .error (.validation (.unknownWord kind word))

namespace InvoiceFrequency

/-- Reads a frequency. -/
def parse (s : String) : Except BillingError InvoiceFrequency :=
  match ofText? s with
  | some f => .ok f
  | none => .error (.validation (.unknownWord "invoice frequency" (normalized s)))

/-- The period a run at an instant bills. -/
def periodEndingBefore (f : InvoiceFrequency) (asOf : Instant) :
    Except BillingError BillingPeriod :=
  match f.periodBefore? asOf.date with
  | none => .error (.validation .notOnSchedule)
  | some (.ok p) => .ok p
  | some (.error e) => .error (.ofTemporal e)

end InvoiceFrequency

end RideLedger
