import RideLedger.Form.Basic
import RideLedger.Rehearsal

/-!
# Forms of errors

Errors described by their name and parts. A part that is not given is empty,
or zero. The faults of a rehearsal are given in this form.
-/

namespace RideLedger

open Form

def StoreFault.form : Form StoreFault := do
  match ← text "variant" with
  | "NotFound" => return .notFound (← textOrEmpty "entity") (← textOrEmpty "id")
  | "Validation" => return .validation (← textOrEmpty "message") (← optText "field")
  | "Conflict" => return .conflict (← textOrEmpty "message")
  | "Immutable" => return .immutable (← textOrEmpty "entity") (← textOrEmpty "id")
  | "Inactive" => return .inactive (← textOrEmpty "entity") (← textOrEmpty "id")
  | "Unauthorized" => return .unauthorized (← textOrEmpty "message")
  | "Cancelled" => return .cancelled
  | "Connection" => return .connection (← textOrEmpty "message")
  | "Timeout" => return .timeout (← textOrEmpty "message") (← naturalOr 0 "ms")
  | "Internal" => return .internal (← textOrEmpty "message")
  | _ => throw (.field "variant")

def CoreError.form : Form CoreError := do
  let message ← textOrEmpty "message"
  match ← text "variant" with
  | "Validation" => return .validation message
  | "Unauthorized" => return .unauthorized message
  | "InvalidAmount" => return .money (.invalidAmount message)
  | "DivisionByZero" => return .money .divisionByZero
  | "Overflow" => return .money .overflow
  | "InvalidPeriod" => return .temporal (.invalidPeriod message (← textOrEmpty "end"))
  | "OutOfRange" => return .temporal (.outOfRange message)
  | _ => throw (.field "variant")

def BillingError.form : Form BillingError := do
  let message ← textOrEmpty "message"
  match ← text "variant" with
  | "Validation" => return .validation (.stated message)
  | "UnbalancedTransaction" => return .unbalanced (← decimal "debits") (← decimal "credits")
  | "AccountInactive" => return .accountInactive ⟨← uuid "id"⟩
  | "NoUnbilledCharges" =>
    return .noUnbilledCharges ⟨← uuid "id"⟩ (← date "start") (← date "end")
  | "NotFound" => return .notFound message (← textOrEmpty "id")
  | "DuplicateTransaction" => return .duplicateTransaction ⟨← uuid "id"⟩ (← sourceType) message
  | "Conflict" => return .conflict message
  | "Immutable" => return .immutable message
  | "Unauthorized" => return .unauthorized message
  | "Cancelled" => return .cancelled
  | "Calculation" => return .calculation .overflow
  | "Storage" => return .storage (.connection message)
  | "Failure" => return .failure message
  | _ => throw (.field "variant")

/-- What a row can be called. -/
def entityForm : Form String := do
  match ← textOrEmpty "entity" with
  | "Account" => return "Account"
  | "OutboxEvent" => return "OutboxEvent"
  | _ => return "record"

def DatabaseError.form : Form DatabaseError := do
  let message ← textOrEmpty "message"
  match ← text "variant" with
  | "ConnectionFailed" => return .connectionFailed message
  | "QueryFailed" => return .queryFailed message
  | "NotFound" => return .notFound (← entityForm) (← textOrEmpty "id")
  | "DuplicateEntry" => return .duplicateEntry (← optText "constraint") message
  | "ForeignKeyViolation" => return .foreignKeyViolation message
  | "ConstraintViolation" => return .constraintViolation message
  | "ImmutableRecord" => return .immutableRecord (← textOrEmpty "table") message
  | "NumericOverflow" => return .numericOverflow message
  | "Inactive" => return .inactive (← entityForm) (← textOrEmpty "id")
  | "MigrationFailed" => return .migrationFailed message
  | "CorruptRow" => return .corruptRow message
  | "PoolExhausted" => return .poolExhausted
  | _ => throw (.field "variant")

def SqlFault.form : Form SqlFault := do
  let message ← textOrEmpty "message"
  match ← text "variant" with
  | "RowNotFound" => return .rowNotFound
  | "PoolTimedOut" => return .poolTimedOut
  | "PoolClosed" => return .poolClosed
  | "Io" => return .io message
  | "Tls" => return .tls message
  | "Protocol" => return .protocol message
  | "ColumnDecode" => return .columnDecode (← textOrEmpty "index") message
  | "Database" =>
    return .database (← optText "code") (← optText "constraint") (← optText "table") message
  | _ => throw (.field "variant")

/-- What an armed fault does: it cancels, answers, or fails. -/
def FaultAction.form : Form FaultAction := do
  if ← flag "cancel" then return .cancel
  match ← optional Bool "answer" with
  | some b => return .answer b
  | none => return .fail (← StoreFault.form)

/-- A fault to arm. -/
def ArmedFault.form : Form ArmedFault := do
  let operation ← text "on"
  let skip ← naturalOr 0 "skip"
  return { operation := operation, skip := skip
           action := ← within ((← field? "act").getD .null) FaultAction.form }

end RideLedger
