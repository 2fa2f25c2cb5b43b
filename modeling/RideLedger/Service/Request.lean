import RideLedger.Account

/-!
# What services are asked

The requests to record a ride or a payment, and the choices of an invoice run.
A request is checked for the lengths of its texts before anything else.
-/

namespace RideLedger

/-- A ride to charge. -/
structure RideChargeRequest where
  account : AccountId
  ride : String
  amount : Money
  description : Option String

/-- A payment to record. -/
structure PaymentRequest where
  account : AccountId
  payment : String
  amount : Money
  description : Option String

/-- The largest length of a reference in a request, in characters. -/
abbrev maxReferenceCharacters : Nat := 100

/-- The largest length of a description, in characters. -/
abbrev maxDescriptionLength : Nat := 500

/-- The texts of a request that are too short or too long, sorted by field. -/
def referenceFaults (field reference : String) (description : Option String) : List String :=
  lengthFaults [("description", 0, maxDescriptionLength, description),
    (field, 1, maxReferenceCharacters, some reference)]

/-- Refuses a request with a text of a wrong length. -/
def checkLengths (faults : List String) : Outcome Unit :=
  if faults = [] then pure () else Outcome.refuse (.lengths faults)

def RideChargeRequest.check (r : RideChargeRequest) : Outcome Unit :=
  checkLengths (referenceFaults "ride_id" r.ride r.description)

def PaymentRequest.check (r : PaymentRequest) : Outcome Unit :=
  checkLengths (referenceFaults "payment_id" r.payment r.description)

/-- How invoices are issued when nothing else is said. -/
structure InvoicingPolicy where
  paymentTermsDays : UInt32
deriving DecidableEq

def InvoicingPolicy.default : InvoicingPolicy := { paymentTermsDays := 30 }

/-- How one invoice is issued. -/
structure InvoiceOptions where
  issueDate : Option Date
  paymentTermsDays : Option UInt32
deriving DecidableEq

def InvoiceOptions.default : InvoiceOptions := { issueDate := none, paymentTermsDays := none }

instance : ToJson RideChargeRequest where
  toJson r := .object
    [("account_id", toJson r.account), ("ride_id", toJson r.ride), ("amount", toJson r.amount),
      ("description", toJson r.description)]

instance : OfJson RideChargeRequest where
  ofJson? j := do
    match ← j.fields? ["account_id", "ride_id", "amount", "description"] 0 with
    | [account, ride, amount, description] =>
      some { account := ← Json.required? account, ride := ← Json.required? ride
             amount := ← Json.required? amount, description := ← Json.optional? description }
    | _ => none

instance : ToJson PaymentRequest where
  toJson r := .object
    [("account_id", toJson r.account), ("payment_id", toJson r.payment),
      ("amount", toJson r.amount), ("description", toJson r.description)]

instance : OfJson PaymentRequest where
  ofJson? j := do
    match ← j.fields? ["account_id", "payment_id", "amount", "description"] 0 with
    | [account, payment, amount, description] =>
      some { account := ← Json.required? account, payment := ← Json.required? payment
             amount := ← Json.required? amount, description := ← Json.optional? description }
    | _ => none

instance : ToJson InvoicingPolicy :=
  ⟨fun p => .object [("payment_terms_days", toJson p.paymentTermsDays)]⟩

instance : OfJson InvoicingPolicy where
  ofJson? j := do
    match ← j.fields? ["payment_terms_days"] 0 with
    | [days] => some { paymentTermsDays := ← Json.required? days }
    | _ => none

instance : ToJson InvoiceOptions :=
  ⟨fun o => .object [("issue_date", toJson o.issueDate),
    ("payment_terms_days", toJson o.paymentTermsDays)]⟩

instance : OfJson InvoiceOptions where
  ofJson? j := do
    match ← j.fields? ["issue_date", "payment_terms_days"] 0 with
    | [date, days] =>
      some { issueDate := ← Json.optional? date, paymentTermsDays := ← Json.optional? days }
    | _ => none

end RideLedger
