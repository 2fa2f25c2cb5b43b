import RideLedger.StoreFault
import RideLedger.Text.Quoted
import RideLedger.Identifier

/-!
# Write-once maps

A map whose items are never replaced and never removed. Writing under a key
that is there is refused. The items keep the order they came in.
-/

namespace RideLedger

/-- Keys that can be shown in a message. -/
class ShownKey (κ : Type) where
  shownKey : κ → String

export ShownKey (shownKey)

instance : ShownKey String := ⟨shown⟩

/-- The name of the type of a kind of identifiers. -/
def IdKind.typeName : IdKind → String
  | .tenant => "TenantId"
  | .account => "AccountId"
  | .ledgerEntry => "LedgerEntryId"
  | .invoice => "InvoiceId"
  | .invoiceLine => "InvoiceLineItemId"
  | .transaction => "TransactionId"
  | .event => "EventId"

instance {kind : IdKind} : ShownKey (Id kind) :=
  ⟨fun i => kind.typeName ++ "(" ++ i.uuid.toText ++ ")"⟩

instance {κ ν : Type} [ShownKey κ] [ShownKey ν] : ShownKey (κ × ν) :=
  ⟨fun (a, b) => "(" ++ shownKey a ++ ", " ++ shownKey b ++ ")"⟩

/-- A map of written items. -/
structure WriteOnce (κ ν : Type) where
  /-- What an item is called in messages. -/
  entity : String
  items : List (κ × ν)

namespace WriteOnce

variable {κ ν : Type}

/-- The map without items. -/
def empty (entity : String) : WriteOnce κ ν := { entity := entity, items := [] }

/-- The value under a key. -/
def get? [DecidableEq κ] (m : WriteOnce κ ν) (key : κ) : Option ν :=
  (m.items.find? fun item => item.1 = key).map (·.2)

/-- Whether there is a value under a key. -/
def contains [DecidableEq κ] (m : WriteOnce κ ν) (key : κ) : Bool :=
  m.items.any fun item => item.1 = key

/-- Writes a value under a new key. -/
def insert [DecidableEq κ] [ShownKey κ] (m : WriteOnce κ ν) (key : κ) (value : ν) :
    Except StoreFault (WriteOnce κ ν) :=
  if m.contains key then .error (.immutable m.entity (shownKey key))
  else .ok { m with items := m.items ++ [(key, value)] }

/-- The values, in the order they were written. -/
def values (m : WriteOnce κ ν) : List ν := m.items.map (·.2)

/-- The number of items. -/
def size (m : WriteOnce κ ν) : Nat := m.items.length

end WriteOnce

end RideLedger
