import RideLedger.Report.Error
import RideLedger.Store

/-!
# Reports of stores

What clients are shown of a store: how well it does and how much it holds. The
time that a look at the store took is shown where it is always the same.
-/

namespace RideLedger

namespace Store

/-- How well the store does. -/
def healthReport (s : Store) (at_ : Instant) : Json :=
  let h := s.health at_
  let latency := match s with
    | .memory _ => [("latency_ms", toJson h.latencyMillis)]
    | .database _ => []
  .object ([("adapter_id", toJson h.adapter), ("status", toJson h.status),
    ("message", toJson h.remark)] ++ latency)

/-- How much the store holds. -/
def countReport (s : Store) : Except DatabaseError Json := do
  return .object ((← s.counts).map fun (name, n) => (name, toJson n))

end Store

end RideLedger
