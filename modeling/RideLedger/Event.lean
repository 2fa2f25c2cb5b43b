import RideLedger.Invoice
import RideLedger.Transaction

/-!
# Events

Every appended transaction and every stored invoice queues one event, in the
same write. An event carries what it reports as a document, and is pending
until it is stamped as dispatched.
-/

namespace RideLedger

/-- What an event reports. -/
inductive EventType
  | ledgerEntryCreated
  | invoiceGenerated
deriving DecidableEq

instance : Choice EventType where
  values := [.ledgerEntryCreated, .invoiceGenerated]
  name
    | .ledgerEntryCreated => "LedgerEntryCreated"
    | .invoiceGenerated => "InvoiceGenerated"
  word
    | .ledgerEntryCreated => "LedgerEntryCreated"
    | .invoiceGenerated => "InvoiceGenerated"

/-- Reads the word of an event type. -/
def EventType.parse (word : String) : Except StoreFault EventType :=
  match Choice.ofWord? word with
  | some t => .ok t
  | none => .error (.internal ("unknown event type '" ++ word ++ "'"))

/-- The report of an appended transaction. -/
structure EntriesCreated where
  transaction : TransactionId
  account : AccountId
  sourceType : SourceType
  reference : String
  amount : Money
  entries : List EntryId

/-- The report of a stored invoice. -/
structure InvoiceGenerated where
  invoice : InvoiceId
  number : String
  account : AccountId
  periodStart : Date
  periodEnd : Date
  subtotal : Money
  outstanding : Money
  lineCount : Nat

/-- A queued event. -/
structure OutboxEvent where
  id : EventId
  tenant : TenantId
  eventType : EventType
  aggregate : String
  payload : Json
  occurredAt : Instant
  dispatchedAt : Option Instant

instance : ToJson EntriesCreated where
  toJson e := .object
    [("account_id", toJson e.account), ("amount", toJson e.amount),
      ("entry_ids", toJson e.entries), ("source_reference_id", toJson e.reference),
      ("source_type", toJson e.sourceType), ("transaction_id", toJson e.transaction)]

instance : OfJson EntriesCreated where
  ofJson? j := do
    match ← j.fields? ["transaction_id", "account_id", "source_type", "source_reference_id",
        "amount", "entry_ids"] 0 with
    | [transaction, account, source, reference, amount, entries] =>
      some { transaction := ← Json.required? transaction, account := ← Json.required? account
             sourceType := ← Json.required? source, reference := ← Json.required? reference
             amount := ← Json.required? amount, entries := ← Json.required? entries }
    | _ => none

instance : ToJson InvoiceGenerated where
  toJson e := .object
    [("account_id", toJson e.account), ("billing_period_end", toJson e.periodEnd),
      ("billing_period_start", toJson e.periodStart), ("invoice_id", toJson e.invoice),
      ("invoice_number", toJson e.number), ("line_item_count", toJson e.lineCount),
      ("outstanding_balance", toJson e.outstanding), ("subtotal", toJson e.subtotal)]

instance : OfJson InvoiceGenerated where
  ofJson? j := do
    match ← j.fields? ["invoice_id", "invoice_number", "account_id", "billing_period_start",
        "billing_period_end", "subtotal", "outstanding_balance", "line_item_count"] 0 with
    | [invoice, number, account, start, finish, subtotal, outstanding, count] =>
      some { invoice := ← Json.required? invoice, number := ← Json.required? number
             account := ← Json.required? account, periodStart := ← Json.required? start
             periodEnd := ← Json.required? finish, subtotal := ← Json.required? subtotal
             outstanding := ← Json.required? outstanding
             lineCount := ← count.bind (Json.natBelow? (2 ^ 64)) }
    | _ => none

instance : ToJson OutboxEvent where
  toJson e := .object
    [("id", toJson e.id), ("tenant_id", toJson e.tenant), ("event_type", toJson e.eventType),
      ("aggregate_id", toJson e.aggregate), ("payload", e.payload),
      ("occurred_at", toJson e.occurredAt), ("dispatched_at", toJson e.dispatchedAt)]

instance : OfJson OutboxEvent where
  ofJson? j := do
    match ← j.fields? ["id", "tenant_id", "event_type", "aggregate_id", "payload", "occurred_at",
        "dispatched_at"] 0 with
    | [id, tenant, type, aggregate, payload, occurred, dispatched] =>
      some { id := ← Json.required? id, tenant := ← Json.required? tenant
             eventType := ← Json.required? type, aggregate := ← Json.required? aggregate
             payload := ← payload, occurredAt := ← Json.required? occurred
             dispatchedAt := ← Json.optional? dispatched }
    | _ => none

namespace OutboxEvent

/-- The report of a transaction. -/
def ofTransaction (id : EventId) (t : LedgerTransaction) : OutboxEvent :=
  let payload : EntriesCreated :=
    { transaction := t.id, account := t.account, sourceType := t.sourceType
      reference := t.reference, amount := t.amount, entries := t.entries.map (·.id) }
  { id := id, tenant := t.tenant, eventType := .ledgerEntryCreated, aggregate := t.id.toText
    payload := toJson payload, occurredAt := t.createdAt, dispatchedAt := none }

/-- The report of an invoice. -/
def ofInvoice (id : EventId) (i : Invoice) : OutboxEvent :=
  let payload : InvoiceGenerated :=
    { invoice := i.id, number := i.number.text, account := i.account
      periodStart := i.period.start, periodEnd := i.period.finish, subtotal := i.subtotal
      outstanding := i.outstanding, lineCount := i.lines.length }
  { id := id, tenant := i.tenant, eventType := .invoiceGenerated, aggregate := i.id.toText
    payload := toJson payload, occurredAt := i.generatedAt, dispatchedAt := none }

/-- Whether the event was not dispatched yet. -/
def isPending (e : OutboxEvent) : Bool := e.dispatchedAt.isNone

/-- The event with a stamp; the first stamp stays. -/
def dispatch (e : OutboxEvent) (at_ : Instant) : OutboxEvent :=
  { e with dispatchedAt := some (e.dispatchedAt.getD at_) }

/-- The line of an event in the dispatched output. -/
def line (e : OutboxEvent) : String := (toJson e).render

end OutboxEvent

end RideLedger
