import RideLedger.Identifier
import RideLedger.Money
import RideLedger.Calendar.Period

/-!
# Request contexts

Every operation runs for one tenant and in the name of one actor. Both are
resolved before it starts: without a tenant there is no context, and without a
name the actor is the system.
-/

namespace RideLedger

/-- Why a request could not begin. -/
inductive CoreError
  | money (e : MoneyError)
  | temporal (e : TemporalError)
  | validation (text : String)
  | unauthorized (text : String)
deriving DecidableEq

/-- The wording of an error. -/
def CoreError.message : CoreError → String
  | .money e => "Money error: " ++ e.message
  | .temporal e => "Temporal error: " ++ e.message
  | .validation text => "Validation error: " ++ text
  | .unauthorized text => "Unauthorized: " ++ text

/-- The actor of automatic writes. -/
def systemActor : String := "system"

/-- The tenant and the actor of a request. -/
structure RequestContext where
  tenant : TenantId
  actor : String
deriving DecidableEq

/-- Builds a context. The nil tenant counts as none, and a blank actor too. -/
def RequestContext.resolve (tenant : Option TenantId) (actor : Option String) :
    Except CoreError RequestContext :=
  match tenant.filter (!·.isNil) with
  | none => .error (.unauthorized "request has no resolved tenant")
  | some tenant =>
    .ok { tenant := tenant, actor := ((actor.map trim).filter (· ≠ "")).getD systemActor }

end RideLedger
