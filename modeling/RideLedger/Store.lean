import RideLedger.Database
import RideLedger.MemoryStore

/-!
# Stores

Billing runs over either of two stores, one in memory and one in a database.
Both answer the same requests.
-/

namespace RideLedger

/-- A store. -/
inductive Store
  | memory (s : MemoryStore)
  | database (d : Database)

namespace Store

/-- Answers a request. -/
def serve (cancelled : Bool) (request : StoreRequest) :
    Store → Except RangeFault (request.Answer × Store)
  | .memory s => do
    let (answer, s) ← s.serve cancelled request
    return (answer, .memory s)
  | .database d => do
    let (answer, d) ← d.serve cancelled request
    return (answer, .database d)

/-- The store's report on itself. -/
def health (at_ : Instant) : Store → HealthReport
  | .memory _ => MemoryStore.health at_
  | .database d => d.health at_

/-- What the store counts, and how much of it there is. -/
def counts : Store → Except DatabaseError (List (String × Nat))
  | .memory s => .ok [("entries", s.entries.size), ("invoices", s.invoices.size)]
  | .database d => do return (← d.counts).map fun (table, n) => (Choice.word table, n)

end Store

end RideLedger
