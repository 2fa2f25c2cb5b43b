import RideLedger.Report.Error

/-!
# Forms

A form reads the fields of a document one after another. The first field that
does not hold what is wanted ends it with a `FormFault`. A field that is absent
and a field that is null are the same.
-/

namespace RideLedger

/-- Why a form could not be read. -/
inductive FormFault
  /-- A field that is missing or holds something else. -/
  | field (name : String)
  | decimal
  | uuid
  /-- A document of another type than wanted. -/
  | document
  /-- A text that breaks a rule. -/
  | refused (e : BillingError)
deriving DecidableEq

instance : Reported FormFault where
  report
    | .field name => .object [("error", toJson "BadInput"), ("message", toJson name)]
    | .decimal => .object [("error", toJson "BadDecimal")]
    | .uuid => .object [("error", toJson "BadUuid")]
    | .document => .object [("error", toJson "Json")]
    | .refused e => report e

/-- A reading of the fields of a document. -/
abbrev Form := ReaderT Json (Except FormFault)

namespace Form

variable {α : Type}

/-- The value, or a fault. -/
def get (fault : FormFault) : Option α → Form α
  | some a => pure a
  | none => throw fault

/-- A result, with an error as the fault of its text. -/
def orRefused : Except BillingError α → Form α
  | .ok a => pure a
  | .error e => throw (.refused e)

/-- Reads the fields of another document. -/
def within (j : Json) (f : Form α) : Form α := fun _ => f j

/-- The value of a field that is there. -/
def field? (name : String) : Form (Option Json) := do
  return ((← read).field? name).filter (!·.isNull)

/-- A field read in a given way, if it is there. -/
def optionalBy (read? : Json → Option α) (name : String) : Form (Option α) := do
  match ← field? name with
  | none => return none
  | some j => return some (← get (.field name) (read? j))

/-- A field read in a given way. -/
def requiredBy (read? : Json → Option α) (name : String) : Form α := do
  get (.field name) (← optionalBy read? name)

/-- A field that may be absent. -/
def optional (α : Type) [OfJson α] : String → Form (Option α) := optionalBy ofJson?

/-- A field that has to be there. -/
def required (α : Type) [OfJson α] : String → Form α := requiredBy ofJson?

def text : String → Form String := required String
def optText : String → Form (Option String) := optional String

/-- A text; the empty one if it is absent. -/
def textOrEmpty (name : String) : Form String := do return (← optText name).getD ""

/-- A whole number of 32 bits without sign. -/
def word32 : String → Form UInt32 := required UInt32

/-- A whole number of 64 bits without sign. -/
def natural : String → Form Nat := requiredBy (Json.natBelow? (2 ^ 64))

/-- The same, and a number to take if it is absent. -/
def naturalOr (default : Nat) (name : String) : Form Nat := do
  return (← optionalBy (Json.natBelow? (2 ^ 64)) name).getD default

/-- A whole number of 64 bits with sign. -/
def whole : String → Form Int := requiredBy fun
  | .integer n => if -2 ^ 63 ≤ n ∧ n < 2 ^ 63 then some n else none
  | _ => none

/-- Whether a flag is set. -/
def flag (name : String) : Form Bool := do return (← optional Bool name).getD false

/-- The documents of a list. -/
def items : String → Form (List Json) := required (List Json)

def decimalOf (s : String) : Form Decimal := get .decimal (Decimal.ofText? s)
def instantOf (s : String) : Form Instant := get (.field "instant") (Instant.ofText? s)
def dateOf (s : String) : Form Date := get (.field "date") (Date.ofText? s)

def decimal (name : String) : Form Decimal := do decimalOf (← text name)
def money (name : String) : Form Money := do return .ofDecimal (← decimal name)
def instant (name : String) : Form Instant := do instantOf (← text name)
def optInstant (name : String) : Form (Option Instant) := do (← optText name).mapM instantOf
def date (name : String) : Form Date := do dateOf (← text name)
def optDate (name : String) : Form (Option Date) := do (← optText name).mapM dateOf
def uuid (name : String) : Form Uuid := do get .uuid (Uuid.ofText? (← text name))

/-- A choice by its word; `kind` is what it is called when it is unknown. -/
def choice (α : Type) [Choice α] (kind name : String) : Form α := do
  orRefused (Choice.parse kind (← text name))

def ledgerAccount : Form LedgerAccount := choice LedgerAccount "ledger account" "ledger_account"
def sourceType : Form SourceType := choice SourceType "source type" "source_type"
def frequency (name : String) : Form InvoiceFrequency := do
  orRefused (InvoiceFrequency.parse (← text name))

/-- A page; the first fifty items if nothing else is said. -/
def pageForm : Form PageRequest := do
  return .new ((← optional UInt32 "page").getD 1) ((← optional UInt32 "per_page").getD 50)

/-- A document of some type. -/
def document (α : Type) [OfJson α] (name : String) : Form α := do
  get .document (((← read).field? name).bind ofJson?)

end Form

end RideLedger
