import RideLedger.Job.Runner

/-!
# Documents by type

Reading a document of a named type and writing it again.
-/

namespace RideLedger

/-- Reads a document as a type and writes it again. -/
def roundTrip (α : Type) [OfJson α] [ToJson α] (j : Json) : Option Json :=
  (ofJson? j : Option α).map toJson

/-- The types of documents by their names. -/
def documentTypes : List (String × (Json → Option Json)) :=
  [("Money", roundTrip Money), ("BillingPeriod", roundTrip BillingPeriod),
    ("StatementRange", roundTrip StatementRange), ("PageRequest", roundTrip PageRequest),
    ("NewAccount", roundTrip NewAccount), ("RideChargeRequest", roundTrip RideChargeRequest),
    ("PaymentRequest", roundTrip PaymentRequest), ("InvoiceOptions", roundTrip InvoiceOptions),
    ("InvoicingPolicy", roundTrip InvoicingPolicy), ("InvoiceNumber", roundTrip InvoiceNumber),
    ("TransactionKey", roundTrip TransactionKey),
    ("LedgerEntriesCreated", roundTrip EntriesCreated),
    ("InvoiceGenerated", roundTrip InvoiceGenerated), ("OutboxEvent", roundTrip OutboxEvent),
    ("StatementLine", roundTrip StatementLine), ("Statement", roundTrip Statement),
    ("LedgerAccountTotals", roundTrip AccountTotals), ("TrialBalance", roundTrip TrialBalance),
    ("HealthCheckResult", roundTrip HealthReport), ("AdapterHealth", roundTrip Health),
    ("PostingSide", roundTrip PostingSide), ("LedgerAccount", roundTrip LedgerAccount),
    ("SourceType", roundTrip SourceType), ("AccountType", roundTrip AccountType),
    ("AccountStatus", roundTrip AccountStatus),
    ("InvoiceFrequency", roundTrip InvoiceFrequency), ("BillingEventType", roundTrip EventType)]

end RideLedger
