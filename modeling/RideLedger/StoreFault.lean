import RideLedger.Choice
import RideLedger.Calendar.Text

/-!
# Store faults

What a store answers instead of a result. Every store reports its failures in
these terms, whatever it is made of. Only a lost connection and a timeout are
transient: the same operation may succeed later.
-/

namespace RideLedger

/-- A failed store operation. -/
inductive StoreFault
  | notFound (entity id : String)
  | validation (text : String) (field : Option String)
  | conflict (text : String)
  | immutable (entity id : String)
  | inactive (entity id : String)
  | unauthorized (text : String)
  | cancelled
  | connection (text : String)
  | timeout (operation : String) (millis : Nat)
  | internal (text : String)
deriving DecidableEq

namespace StoreFault

/-- The wording of a fault. -/
def message : StoreFault → String
  | .notFound entity id => "Not found: " ++ entity ++ " with id " ++ id
  | .validation text _ => "Validation error: " ++ text
  | .conflict text => "Conflict: " ++ text
  | .immutable entity id =>
    "Immutable record: " ++ entity ++ " with id " ++ id ++ " cannot be modified"
  | .inactive entity id => "Inactive: " ++ entity ++ " with id " ++ id ++ " does not accept writes"
  | .unauthorized text => "Unauthorized: " ++ text
  | .cancelled => "Operation cancelled before commit"
  | .connection text => "Connection error: " ++ text
  | .timeout operation millis => "Timeout after " ++ Nat.repr millis ++ "ms: " ++ operation
  | .internal text => "Internal error: " ++ text

/-- The name of a fault. -/
def label : StoreFault → String
  | .notFound .. => "NotFound"
  | .validation .. => "Validation"
  | .conflict .. => "Conflict"
  | .immutable .. => "Immutable"
  | .inactive .. => "Inactive"
  | .unauthorized .. => "Unauthorized"
  | .cancelled => "Cancelled"
  | .connection .. => "Connection"
  | .timeout .. => "Timeout"
  | .internal .. => "Internal"

/-- Whether the same operation may succeed later. -/
def isTransient : StoreFault → Bool
  | .connection .. | .timeout .. => true
  | _ => false

def isNotFound : StoreFault → Bool
  | .notFound .. => true
  | _ => false

def isConflict : StoreFault → Bool
  | .conflict .. => true
  | _ => false

end StoreFault

/-! ## Health -/

/-- How well a store does. -/
inductive Health
  | healthy
  | degraded
  | unhealthy
deriving DecidableEq

instance : Choice Health where
  values := [.healthy, .degraded, .unhealthy]
  name
    | .healthy => "healthy"
    | .degraded => "degraded"
    | .unhealthy => "unhealthy"
  word
    | .healthy => "healthy"
    | .degraded => "degraded"
    | .unhealthy => "unhealthy"

/-- The result of a look at a store. -/
structure HealthReport where
  adapter : String
  status : Health
  latencyMillis : Nat
  remark : Option String
  checkedAt : Instant

instance : ToJson HealthReport where
  toJson h := .object
    [("adapter_id", toJson h.adapter), ("status", toJson h.status),
      ("latency_ms", toJson h.latencyMillis), ("message", toJson h.remark),
      ("checked_at", toJson h.checkedAt)]

instance : OfJson HealthReport where
  ofJson? j := do
    match ← j.fields? ["adapter_id", "status", "latency_ms", "message", "checked_at"] 0 with
    | [adapter, status, latency, remark, checked] =>
      some { adapter := ← Json.required? adapter, status := ← Json.required? status
             latencyMillis := ← latency.bind (Json.natBelow? (2 ^ 64))
             remark := ← Json.optional? remark, checkedAt := ← Json.required? checked }
    | _ => none

end RideLedger
