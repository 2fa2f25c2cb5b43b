import RideLedger.Database.Error
import RideLedger.Job.Runner

/-!
# Reports of errors

Values as they are shown to clients: the document form of a value together with
what can be derived from it. An error is shown with its family or kind, its
name and its wording.
-/

namespace RideLedger

/-- Types whose values can be shown to clients. -/
class Reported (α : Type) where
  report : α → Json

export Reported (report)

/-- An error of a family. -/
def familyReport (family label message : String) : Json := .object
  [("error", toJson family), ("variant", toJson label), ("message", toJson message)]

/-- The names of errors of amounts. -/
def MoneyError.label : MoneyError → String
  | .invalidAmount _ => "InvalidAmount"
  | .divisionByZero => "DivisionByZero"
  | .overflow => "Overflow"

/-- The names of errors of periods. -/
def TemporalError.label : TemporalError → String
  | .invalidPeriod .. => "InvalidPeriod"
  | .outOfRange _ => "OutOfRange"

/-- The names of errors of contexts. -/
def CoreError.label : CoreError → String
  | .money _ => "Money"
  | .temporal _ => "Temporal"
  | .validation _ => "Validation"
  | .unauthorized _ => "Unauthorized"

instance : Reported RangeFault :=
  ⟨fun e => .object [("error", toJson "Panic"), ("message", toJson e.message)]⟩

instance : Reported MoneyError := ⟨fun e => familyReport "Money" e.label e.message⟩
instance : Reported TemporalError := ⟨fun e => familyReport "Temporal" e.label e.message⟩
instance : Reported CoreError := ⟨fun e => familyReport "Core" e.label e.message⟩
instance : Reported DatabaseError := ⟨fun e => familyReport "Database" e.label e.message⟩

instance : Reported StoreFault :=
  ⟨fun e => (familyReport "Port" e.label e.message).extend [("transient", toJson e.isTransient)]⟩

instance : Reported BillingError :=
  ⟨fun e => (familyReport e.kind.label e.label e.message).extend
    [("retryable", toJson e.isRetryable)]⟩

instance : Reported JobError where
  report
    | .billing e => (report e).extend [("job", toJson "Billing")]
    | .output text => .object [("error", toJson "Job"), ("job", toJson "Output"),
        ("message", toJson (JobError.output text).message)]
    | .serialization text => .object [("error", toJson "Job"), ("job", toJson "Serialization"),
        ("message", toJson (JobError.serialization text).message)]

/-- A billing error with what it counts as. -/
def BillingError.classReport (e : BillingError) : Json :=
  (report e).extend [("is_conflict", toJson e.isConflict),
    ("is_validation", toJson e.isValidation), ("is_not_found", toJson e.isNotFound)]

/-- A store fault with what it means for billing. -/
def StoreFault.classReport (e : StoreFault) : Json := .object
  [("port", report e), ("is_not_found", toJson e.isNotFound),
    ("is_conflict", toJson e.isConflict),
    ("billing", (BillingError.ofStoreFault e).classReport)]

/-- A database error with what it means for the store and for billing. -/
def DatabaseError.classReport (e : DatabaseError) (constraint : String) : Json :=
  let fault := e.toStoreFault
  let field := match fault with
    | .validation _ field => [("field", toJson field)]
    | _ => []
  .object ([("db", report e), ("is_not_found", toJson e.isNotFound),
    ("is_duplicate_on", toJson (e.isDuplicateOn constraint)),
    ("is_constraint_violation", toJson e.isConstraintViolation),
    ("is_connection_error", toJson e.isConnectionError), ("port", report fault),
    ("billing", (BillingError.ofStoreFault fault).classReport)] ++ field)

end RideLedger
