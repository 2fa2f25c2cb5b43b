import RideLedger.BillingError
import RideLedger.Text.Blank

/-!
# Accounts

An account is the party that rides are billed to. It is opened active, may be
switched between active and inactive, and is never removed: an inactive account
takes no new postings but stays readable and can be invoiced.
-/

namespace RideLedger

/-- The kind of party. -/
inductive AccountType
  | organization
  | individual
deriving DecidableEq

/-- Whether an account takes postings. -/
inductive AccountStatus
  | active
  | inactive
deriving DecidableEq

instance : Choice AccountType where
  values := [.organization, .individual]
  name
    | .organization => "Organization"
    | .individual => "Individual"
  word
    | .organization => "organization"
    | .individual => "individual"

instance : Choice AccountStatus where
  values := [.active, .inactive]
  name
    | .active => "Active"
    | .inactive => "Inactive"
  word
    | .active => "active"
    | .inactive => "inactive"

/-- A request to open an account. -/
structure NewAccount where
  name : String
  accountType : AccountType
  frequency : InvoiceFrequency
deriving DecidableEq

/-- A billed party. -/
structure Account where
  id : AccountId
  tenant : TenantId
  name : String
  accountType : AccountType
  status : AccountStatus
  frequency : InvoiceFrequency
  createdAt : Instant
  createdBy : String
  modifiedAt : Option Instant
  modifiedBy : Option String
deriving DecidableEq

/-- The fields whose number of characters is outside `low` to `high`. -/
def lengthFaults (rules : List (String × Nat × Nat × Option String)) : List String :=
  (rules.filter fun (_, low, high, text) =>
    text.any fun s => s.length < low || high < s.length).map (·.1)

namespace Account

/-- The name without blanks at its ends; it may not be blank or too long. -/
def validName (name : String) : Except BillingError String :=
  let name := trim name
  if name = "" then .error (.validation .blankName)
  else if maxNameLength < name.length then .error (.validation .longName)
  else .ok name

/-- Opens an active account. -/
def opened (id : AccountId) (tenant : TenantId) (request : NewAccount) (actor : String)
    (now : Instant) : Except BillingError Account := do
  let faults := lengthFaults [("name", 1, maxNameLength, some request.name)]
  if faults ≠ [] then throw (.validation (.lengths faults))
  return { id := id, tenant := tenant, name := ← validName request.name
           accountType := request.accountType, status := .active
           frequency := request.frequency, createdAt := now, createdBy := actor
           modifiedAt := none, modifiedBy := none }

/-- A stored account with its name checked again. -/
def rehydrate (record : Account) : Except BillingError Account := do
  return { record with name := ← validName record.name }

/-- Only active accounts take postings. -/
def canReceive (a : Account) : Bool := a.status = .active

/-- The account with a note of who changed it and when. -/
def stamp (a : Account) (actor : String) (now : Instant) : Account :=
  { a with modifiedAt := some now, modifiedBy := some actor }

/-- The account with another status; nothing if it has it already. -/
def setStatus? (a : Account) (status : AccountStatus) (actor : String) (now : Instant) :
    Option Account :=
  if a.status = status then none else some ({ a with status := status }.stamp actor now)

/-- The account made active; nothing if it is. -/
def activate? (a : Account) (actor : String) (now : Instant) : Option Account :=
  a.setStatus? .active actor now

/-- The account made inactive; nothing if it is. -/
def deactivate? (a : Account) (actor : String) (now : Instant) : Option Account :=
  a.setStatus? .inactive actor now

/-- The account with another frequency; nothing if it has it already. -/
def setFrequency? (a : Account) (frequency : InvoiceFrequency) (actor : String) (now : Instant) :
    Option Account :=
  if a.frequency = frequency then none
  else some ({ a with frequency := frequency }.stamp actor now)

end Account

instance : ToJson Account where
  toJson a := .object
    [("id", toJson a.id), ("tenant_id", toJson a.tenant), ("name", toJson a.name),
      ("account_type", toJson a.accountType), ("status", toJson a.status),
      ("invoice_frequency", toJson a.frequency), ("created_at", toJson a.createdAt),
      ("created_by", toJson a.createdBy), ("modified_at", toJson a.modifiedAt),
      ("modified_by", toJson a.modifiedBy)]

instance : ToJson NewAccount where
  toJson a := .object
    [("name", toJson a.name), ("account_type", toJson a.accountType),
      ("invoice_frequency", toJson a.frequency)]

instance : OfJson NewAccount where
  ofJson? j := do
    match ← j.fields? ["name", "account_type", "invoice_frequency"] 0 with
    | [name, type, frequency] =>
      some { name := ← Json.required? name, accountType := ← Json.required? type
             frequency := ← Json.required? frequency }
    | _ => none

end RideLedger
