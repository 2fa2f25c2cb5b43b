import RideLedger.Account
import RideLedger.Database.Error
import RideLedger.Event

/-!
# Rows

Accounts, entries, invoices and events as rows of a relational database, and
back. Identifiers are bare, amounts are decimals of any scale, and an invoice
is one row and a row for each of its lines. Reading a row checks again what the
constructors check; a row that breaks a rule is corrupt.
-/

namespace RideLedger

/-- An account. -/
structure AccountRow where
  accountId : Uuid
  tenantId : Uuid
  name : String
  accountType : AccountType
  status : AccountStatus
  frequency : InvoiceFrequency
  createdAt : Instant
  createdBy : String
  modifiedAt : Option Instant
  modifiedBy : Option String
deriving DecidableEq

/-- A ledger entry. -/
structure EntryRow where
  entryId : Uuid
  tenantId : Uuid
  accountId : Uuid
  ledgerAccount : LedgerAccount
  debitAmount : Decimal
  creditAmount : Decimal
  sourceType : SourceType
  reference : String
  description : Option String
  createdAt : Instant
  createdBy : String
deriving DecidableEq

/-- An invoice without its lines. -/
structure InvoiceRow where
  invoiceId : Uuid
  tenantId : Uuid
  number : String
  accountId : Uuid
  periodStart : Date
  periodEnd : Date
  issueDate : Date
  dueDate : Date
  subtotal : Decimal
  paymentsApplied : Decimal
  outstanding : Decimal
  generatedAt : Instant
  generatedBy : String
deriving DecidableEq

/-- A line of an invoice. -/
structure LineRow where
  lineId : Uuid
  invoiceId : Uuid
  tenantId : Uuid
  entryId : Uuid
  reference : String
  serviceDate : Date
  amount : Decimal
  description : String
deriving DecidableEq

/-- A queued event. -/
structure EventRow where
  eventId : Uuid
  tenantId : Uuid
  eventType : String
  aggregate : String
  payload : Json
  occurredAt : Instant
  dispatchedAt : Option Instant

/-- A result with a broken rule as a corrupt row. -/
def orCorrupt {α : Type} : Except BillingError α → Except DatabaseError α
  | .ok a => .ok a
  | .error e => .error (.corrupt e)

namespace AccountRow

def ofAccount (a : Account) : AccountRow :=
  { accountId := a.id.uuid, tenantId := a.tenant.uuid, name := a.name
    accountType := a.accountType, status := a.status, frequency := a.frequency
    createdAt := a.createdAt, createdBy := a.createdBy, modifiedAt := a.modifiedAt
    modifiedBy := a.modifiedBy }

def toAccount (r : AccountRow) : Except DatabaseError Account :=
  orCorrupt (Account.rehydrate
    { id := ⟨r.accountId⟩, tenant := ⟨r.tenantId⟩, name := r.name, accountType := r.accountType
      status := r.status, frequency := r.frequency, createdAt := r.createdAt
      createdBy := r.createdBy, modifiedAt := r.modifiedAt, modifiedBy := r.modifiedBy })

end AccountRow

namespace EntryRow

def ofEntry (e : LedgerEntry) : EntryRow :=
  { entryId := e.id.uuid, tenantId := e.tenant.uuid, accountId := e.account.uuid
    ledgerAccount := e.ledgerAccount, debitAmount := e.debitAmount.amount
    creditAmount := e.creditAmount.amount, sourceType := e.sourceType, reference := e.reference
    description := e.description, createdAt := e.createdAt, createdBy := e.createdBy }

def toEntry (r : EntryRow) : Except DatabaseError LedgerEntry :=
  orCorrupt (LedgerEntry.rehydrate
    { id := ⟨r.entryId⟩, tenant := ⟨r.tenantId⟩, account := ⟨r.accountId⟩
      ledgerAccount := r.ledgerAccount, debitAmount := .ofDecimal r.debitAmount
      creditAmount := .ofDecimal r.creditAmount, sourceType := r.sourceType
      reference := r.reference, createdAt := r.createdAt, createdBy := r.createdBy
      description := r.description })

end EntryRow

namespace LineRow

def ofLine (l : InvoiceLine) : LineRow :=
  { lineId := l.id.uuid, invoiceId := l.invoice.uuid, tenantId := l.tenant.uuid
    entryId := l.entry.uuid, reference := l.reference, serviceDate := l.serviceDate
    amount := l.amount.amount, description := l.description }

def toLine (r : LineRow) : Except DatabaseError InvoiceLine :=
  orCorrupt (InvoiceLine.rehydrate
    { id := ⟨r.lineId⟩, invoice := ⟨r.invoiceId⟩, tenant := ⟨r.tenantId⟩, entry := ⟨r.entryId⟩
      reference := r.reference, serviceDate := r.serviceDate, amount := .ofDecimal r.amount
      description := r.description })

end LineRow

namespace InvoiceRow

def ofInvoice (i : Invoice) : InvoiceRow :=
  { invoiceId := i.id.uuid, tenantId := i.tenant.uuid, number := i.number.text
    accountId := i.account.uuid, periodStart := i.period.start, periodEnd := i.period.finish
    issueDate := i.issueDate, dueDate := i.dueDate, subtotal := i.subtotal.amount
    paymentsApplied := i.paymentsApplied.amount, outstanding := i.outstanding.amount
    generatedAt := i.generatedAt, generatedBy := i.generatedBy }

/-- Puts an invoice together from its row and its lines. -/
def toInvoice (r : InvoiceRow) (lines : List LineRow) :
    ExceptT DatabaseError (Except RangeFault) Invoice := do
  let lines ← ExceptT.mk (pure (lines.mapM LineRow.toLine))
  let number ← ExceptT.mk (pure (orCorrupt (InvoiceNumber.parse r.number)))
  let invoice ← (Invoice.rehydrate
    { id := ⟨r.invoiceId⟩, number := number, tenant := ⟨r.tenantId⟩, account := ⟨r.accountId⟩
      period := { start := r.periodStart, finish := r.periodEnd }, issueDate := r.issueDate
      dueDate := r.dueDate, subtotal := .ofDecimal r.subtotal
      paymentsApplied := .ofDecimal r.paymentsApplied, outstanding := .ofDecimal r.outstanding
      lines := lines, generatedAt := r.generatedAt, generatedBy := r.generatedBy }).run
  ExceptT.mk (pure (orCorrupt invoice))

end InvoiceRow

namespace EventRow

def ofEvent (e : OutboxEvent) : EventRow :=
  { eventId := e.id.uuid, tenantId := e.tenant.uuid, eventType := Choice.word e.eventType
    aggregate := e.aggregate, payload := e.payload, occurredAt := e.occurredAt
    dispatchedAt := e.dispatchedAt }

def toEvent (r : EventRow) : Except DatabaseError OutboxEvent :=
  match EventType.parse r.eventType with
  | .error fault => .error (.corruptRow fault.message)
  | .ok eventType =>
    .ok { id := ⟨r.eventId⟩, tenant := ⟨r.tenantId⟩, eventType := eventType
          aggregate := r.aggregate, payload := r.payload, occurredAt := r.occurredAt
          dispatchedAt := r.dispatchedAt }

end EventRow

/-! ## Documents -/

instance : ToJson Decimal := ⟨fun d => .string d.toText⟩

instance : ToJson AccountRow where
  toJson r := .object
    [("account_id", toJson r.accountId), ("tenant_id", toJson r.tenantId),
      ("name", toJson r.name), ("account_type", toJson r.accountType),
      ("status", toJson r.status), ("invoice_frequency", toJson r.frequency),
      ("created_at", toJson r.createdAt), ("created_by", toJson r.createdBy),
      ("modified_at", toJson r.modifiedAt), ("modified_by", toJson r.modifiedBy)]

instance : ToJson EntryRow where
  toJson r := .object
    [("entry_id", toJson r.entryId), ("tenant_id", toJson r.tenantId),
      ("account_id", toJson r.accountId), ("ledger_account", toJson r.ledgerAccount),
      ("debit_amount", toJson r.debitAmount), ("credit_amount", toJson r.creditAmount),
      ("source_type", toJson r.sourceType), ("source_reference_id", toJson r.reference),
      ("description", toJson r.description), ("created_at", toJson r.createdAt),
      ("created_by", toJson r.createdBy)]

instance : ToJson LineRow where
  toJson r := .object
    [("line_item_id", toJson r.lineId), ("invoice_id", toJson r.invoiceId),
      ("tenant_id", toJson r.tenantId), ("ledger_entry_id", toJson r.entryId),
      ("source_reference_id", toJson r.reference), ("service_date", toJson r.serviceDate),
      ("amount", toJson r.amount), ("description", toJson r.description)]

instance : ToJson InvoiceRow where
  toJson r := .object
    [("invoice_id", toJson r.invoiceId), ("tenant_id", toJson r.tenantId),
      ("invoice_number", toJson r.number), ("account_id", toJson r.accountId),
      ("billing_period_start", toJson r.periodStart), ("billing_period_end", toJson r.periodEnd),
      ("issue_date", toJson r.issueDate), ("due_date", toJson r.dueDate),
      ("subtotal", toJson r.subtotal), ("payments_applied", toJson r.paymentsApplied),
      ("outstanding_balance", toJson r.outstanding), ("generated_at", toJson r.generatedAt),
      ("generated_by", toJson r.generatedBy)]

instance : ToJson EventRow where
  toJson r := .object
    [("event_id", toJson r.eventId), ("tenant_id", toJson r.tenantId),
      ("event_type", toJson r.eventType), ("aggregate_id", toJson r.aggregate),
      ("payload", r.payload), ("occurred_at", toJson r.occurredAt),
      ("dispatched_at", toJson r.dispatchedAt)]

end RideLedger
