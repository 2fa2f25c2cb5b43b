import RideLedger.Database.Column
import RideLedger.Database.Row
import RideLedger.Statement

/-!
# Tables

The six tables of the database and the statements on them. A statement gives
new tables or a fault, so one that fails leaves no trace. A row that is added
passes its parameters, its columns, the conditions of its table, the keys of
its table and its references, in this order; the first that refuses it gives
the fault.

Entries, invoices and lines are only added to: changing or removing a row of
them is refused.
-/

namespace RideLedger

/-- The last sequence of a month. -/
structure SequenceRow where
  tenantId : Uuid
  month : String
  last : Int
deriving DecidableEq

/-- The contents of the database, each table in the order its rows came in. -/
structure Tables where
  accounts : List AccountRow
  entries : List EntryRow
  invoices : List InvoiceRow
  lines : List LineRow
  sequences : List SequenceRow
  events : List EventRow

/-- The tables by name. -/
inductive TableName
  | accounts
  | ledgerEntries
  | invoices
  | lineItems
  | sequences
  | events
deriving DecidableEq

instance : Choice TableName where
  values := [.accounts, .ledgerEntries, .invoices, .lineItems, .sequences, .events]
  name
    | .accounts => "accounts"
    | .ledgerEntries => "ledger_entries"
    | .invoices => "invoices"
    | .lineItems => "invoice_line_items"
    | .sequences => "invoice_number_sequences"
    | .events => "outbox_events"
  word
    | .accounts => "accounts"
    | .ledgerEntries => "ledger_entries"
    | .invoices => "invoices"
    | .lineItems => "invoice_line_items"
    | .sequences => "invoice_number_sequences"
    | .events => "outbox_events"

/-! ## Rules -/

/-- What the rows of a table keep to. -/
structure TableRules (ρ : Type) where
  table : TableName
  /-- Conditions on every row. -/
  checks : List (String × (ρ → Bool))
  /-- Keys: when two rows have the same one. -/
  keys : List (String × (ρ → ρ → Bool))

/-- Refuses a row that breaks a condition, or that has a key of one of the
rows. -/
def TableRules.admit {ρ : Type} (rules : TableRules ρ) (row : ρ) (rows : List ρ) :
    Except SqlFault Unit :=
  match rules.checks.find? fun (_, holds) => !holds row with
  | some (constraint, _) => .error (.brokenCheck (Choice.word rules.table) constraint)
  | none =>
    match rules.keys.find? fun (_, same) => rows.any (same row) with
    | some (constraint, _) => .error (.duplicateKey constraint)
    | none => .ok ()

/-- Refuses a row whose reference leads nowhere. -/
def refer (table : TableName) (constraint : String) (leads : Bool) : Except SqlFault Unit :=
  if leads then .ok () else .error (.brokenReference (Choice.word table) constraint)

namespace AccountRow

def rules : TableRules AccountRow where
  table := .accounts
  checks := [("accounts_name_check", fun r => r.name.any (· != ' '))]
  keys :=
    [("accounts_pkey", fun a b => a.accountId = b.accountId),
      ("uq_accounts_tenant_name", fun a b => a.tenantId = b.tenantId && a.name = b.name),
      ("uq_accounts_tenant_id", fun a b => a.tenantId = b.tenantId && a.accountId = b.accountId)]

/-- The row as the table keeps it. -/
def stored (r : AccountRow) : Except SqlFault AccountRow := do
  let r := { r with name := ← Parameter.text r.name, createdAt := ← Parameter.instant r.createdAt
                    createdBy := ← Parameter.text r.createdBy
                    modifiedAt := ← r.modifiedAt.mapM Parameter.instant
                    modifiedBy := ← r.modifiedBy.mapM Parameter.text }
  return { r with name := ← Column.text 200 r.name, createdBy := ← Column.text 100 r.createdBy
                  modifiedBy := ← r.modifiedBy.mapM (Column.text 100) }

/-- The row with what a change takes over from another one: all but the type
and the creation. -/
def changed (r new : AccountRow) : Except SqlFault AccountRow := do
  let new := { new with name := ← Parameter.text new.name
                        modifiedAt := ← new.modifiedAt.mapM Parameter.instant
                        modifiedBy := ← new.modifiedBy.mapM Parameter.text }
  return { r with name := ← Column.text 200 new.name, status := new.status
                  frequency := new.frequency, modifiedAt := new.modifiedAt
                  modifiedBy := ← new.modifiedBy.mapM (Column.text 100) }

end AccountRow

namespace EntryRow

def rules : TableRules EntryRow where
  table := .ledgerEntries
  checks :=
    [("ck_ledger_entries_one_side", fun r =>
        (Decimal.zero.lt r.debitAmount && r.creditAmount.isZero)
          || (Decimal.zero.lt r.creditAmount && r.debitAmount.isZero)),
      ("ledger_entries_source_reference_id_check", fun r => r.reference.any (· != ' '))]
  keys :=
    [("ledger_entries_pkey", fun a b => a.entryId = b.entryId),
      ("uq_ledger_entries_source", fun a b =>
        a.tenantId = b.tenantId && a.accountId = b.accountId && a.reference = b.reference
          && a.sourceType = b.sourceType && a.ledgerAccount = b.ledgerAccount)]

/-- The row as the table keeps it. -/
def stored (r : EntryRow) : Except SqlFault EntryRow := do
  let r := { r with reference := ← Parameter.text r.reference
                    description := ← r.description.mapM Parameter.text
                    createdAt := ← Parameter.instant r.createdAt
                    createdBy := ← Parameter.text r.createdBy }
  return { r with debitAmount := ← Column.amount r.debitAmount
                  creditAmount := ← Column.amount r.creditAmount
                  reference := ← Column.text 100 r.reference
                  description := ← r.description.mapM (Column.text 500)
                  createdBy := ← Column.text 100 r.createdBy }

end EntryRow

namespace InvoiceRow

def rules : TableRules InvoiceRow where
  table := .invoices
  checks :=
    [("ck_invoices_due", fun r => r.issueDate ≤ r.dueDate),
      ("ck_invoices_outstanding", fun r =>
        Column.units r.outstanding = Column.units r.subtotal - Column.units r.paymentsApplied),
      ("ck_invoices_period", fun r => r.periodStart ≤ r.periodEnd)]
  keys :=
    [("invoices_pkey", fun a b => a.invoiceId = b.invoiceId),
      ("uq_invoices_tenant_number", fun a b => a.tenantId = b.tenantId && a.number = b.number)]

/-- The row as the table keeps it. -/
def stored (r : InvoiceRow) : Except SqlFault InvoiceRow := do
  let r := { r with number := ← Parameter.text r.number
                    periodStart := ← Parameter.date r.periodStart
                    periodEnd := ← Parameter.date r.periodEnd
                    issueDate := ← Parameter.date r.issueDate, dueDate := ← Parameter.date r.dueDate
                    generatedAt := ← Parameter.instant r.generatedAt
                    generatedBy := ← Parameter.text r.generatedBy }
  return { r with number := ← Column.text 32 r.number, subtotal := ← Column.amount r.subtotal
                  paymentsApplied := ← Column.amount r.paymentsApplied
                  outstanding := ← Column.amount r.outstanding
                  generatedBy := ← Column.text 100 r.generatedBy }

/-- Orders rows from the newest, by time and then by number. -/
def newestLe (a b : InvoiceRow) : Bool :=
  (compare b.generatedAt a.generatedAt).then (compare b.number a.number) != .gt

end InvoiceRow

namespace LineRow

def rules : TableRules LineRow where
  table := .lineItems
  checks := [("invoice_line_items_amount_check", fun r => Decimal.zero.lt r.amount)]
  keys :=
    [("invoice_line_items_pkey", fun a b => a.lineId = b.lineId),
      ("uq_line_items_invoice_entry", fun a b =>
        a.invoiceId = b.invoiceId && a.entryId = b.entryId),
      ("uq_line_items_tenant_entry", fun a b => a.tenantId = b.tenantId && a.entryId = b.entryId)]

/-- The row as the table keeps it. -/
def stored (r : LineRow) : Except SqlFault LineRow := do
  let r := { r with reference := ← Parameter.text r.reference
                    serviceDate := ← Parameter.date r.serviceDate
                    description := ← Parameter.text r.description }
  return { r with reference := ← Column.text 100 r.reference, amount := ← Column.amount r.amount
                  description := ← Column.text 700 r.description }

/-- Orders lines by service date, then by entry. -/
def dateLe (a b : LineRow) : Bool :=
  (compare a.serviceDate b.serviceDate).then (compare a.entryId b.entryId) != .gt

end LineRow

namespace EventRow

def rules : TableRules EventRow where
  table := .events
  checks := []
  keys := [("outbox_events_pkey", fun a b => a.eventId = b.eventId)]

/-- The row as the table keeps it. -/
def stored (r : EventRow) : Except SqlFault EventRow := do
  let r := { r with eventType := ← Parameter.text r.eventType
                    aggregate := ← Parameter.text r.aggregate
                    occurredAt := ← Parameter.instant r.occurredAt
                    dispatchedAt := ← r.dispatchedAt.mapM Parameter.instant }
  return { r with eventType := ← Column.text 64 r.eventType
                  aggregate := ← Column.text 64 r.aggregate }

end EventRow

namespace SequenceRow

def rules : TableRules SequenceRow where
  table := .sequences
  checks := [("invoice_number_sequences_last_value_check", fun r => 0 < r.last)]
  keys := []

end SequenceRow

/-! ## Statements -/

namespace Tables

/-- Tables without rows. -/
def empty : Tables :=
  { accounts := [], entries := [], invoices := [], lines := [], sequences := [], events := [] }

/-- Whether the tenant has an account. -/
def hasAccount (t : Tables) (tenant account : Uuid) : Bool :=
  t.accounts.any fun a => a.tenantId = tenant && a.accountId = account

/-- Adds an account. -/
def insertAccount (row : AccountRow) (t : Tables) : Except SqlFault Tables := do
  let row ← row.stored
  AccountRow.rules.admit row t.accounts
  return { t with accounts := t.accounts ++ [row] }

/-- Changes an account; nothing if the tenant has none with its identifier. -/
def updateAccount (row : AccountRow) (t : Tables) : Except SqlFault (Option Tables) := do
  -- a row that no account takes over is refused all the same
  let _ ← row.changed row
  let isIt (r : AccountRow) : Bool := r.tenantId = row.tenantId && r.accountId = row.accountId
  match t.accounts.find? isIt with
  | none => return none
  | some old =>
    let new ← old.changed row
    AccountRow.rules.admit new (t.accounts.filter (!isIt ·))
    return some { t with accounts := t.accounts.filter (!isIt ·) ++ [new] }

/-- Adds an entry. -/
def insertEntry (row : EntryRow) (t : Tables) : Except SqlFault Tables := do
  let row ← row.stored
  EntryRow.rules.admit row t.entries
  refer .ledgerEntries "fk_ledger_entries_account" (t.hasAccount row.tenantId row.accountId)
  return { t with entries := t.entries ++ [row] }

/-- Adds an invoice without its lines. -/
def insertInvoice (row : InvoiceRow) (t : Tables) : Except SqlFault Tables := do
  let row ← row.stored
  InvoiceRow.rules.admit row t.invoices
  refer .invoices "fk_invoices_account" (t.hasAccount row.tenantId row.accountId)
  return { t with invoices := t.invoices ++ [row] }

/-- Adds a line. -/
def insertLine (row : LineRow) (t : Tables) : Except SqlFault Tables := do
  let row ← row.stored
  LineRow.rules.admit row t.lines
  refer .lineItems "invoice_line_items_invoice_id_fkey"
    (t.invoices.any (·.invoiceId = row.invoiceId))
  refer .lineItems "invoice_line_items_ledger_entry_id_fkey"
    (t.entries.any (·.entryId = row.entryId))
  return { t with lines := t.lines ++ [row] }

/-- Adds an invoice and its lines. -/
def insertWholeInvoice (invoice : Invoice) (t : Tables) : Except SqlFault Tables := do
  let t ← t.insertInvoice (.ofInvoice invoice)
  invoice.lines.foldlM (fun t line => t.insertLine (.ofLine line)) t

/-- Adds an event. -/
def insertEvent (row : EventRow) (t : Tables) : Except SqlFault Tables := do
  let row ← row.stored
  EventRow.rules.admit row t.events
  return { t with events := t.events ++ [row] }

/-- Sets the sequence of a month. -/
def setSequence (tenant : Uuid) (month : String) (last : Int) (t : Tables) :
    Except SqlFault Tables := do
  let month ← Column.filled 6 (← Parameter.text month)
  let row : SequenceRow := { tenantId := tenant, month := month, last := ← Column.integer last }
  SequenceRow.rules.admit row []
  let others := t.sequences.filter fun r => !(r.tenantId = tenant && r.month = month)
  return { t with sequences := others ++ [row] }

/-- Removes the sequence of a month, and says how many rows that were. -/
def removeSequence (tenant : Uuid) (month : String) (t : Tables) :
    Except SqlFault (Nat × Tables) := do
  let month := Column.bare (← Parameter.text month)
  let others := t.sequences.filter fun r => !(r.tenantId = tenant && r.month = month)
  return (t.sequences.length - others.length, { t with sequences := others })

/-- Takes the next sequence of a month. -/
def nextSequence (tenant : Uuid) (month : String) (t : Tables) :
    Except SqlFault (Int × Tables) := do
  let month ← Column.filled 6 (← Parameter.text month)
  match t.sequences.find? fun r => r.tenantId = tenant && r.month = month with
  | none => return (1, ← t.setSequence tenant month 1)
  | some row => return (row.last + 1, ← t.setSequence tenant month (row.last + 1))

/-- Stamps an event, unless it has a stamp; nothing if the tenant has none with
the identifier. -/
def stampEvent (tenant event : Uuid) (at_ : Instant) (t : Tables) :
    Except SqlFault (Option Tables) := do
  let at_ ← Parameter.instant at_
  let isIt (r : EventRow) : Bool := r.tenantId = tenant && r.eventId = event
  if !t.events.any isIt then return none
  let events := t.events.map fun r =>
    if isIt r then { r with dispatchedAt := some (r.dispatchedAt.getD at_) } else r
  return some { t with events := events }

/-- Renames the type of all events of a tenant, and says how many they are. -/
def renameEvents (tenant : Uuid) (type : String) (t : Tables) : Except SqlFault (Nat × Tables) := do
  let type ← Column.text 64 (← Parameter.text type)
  let events := t.events.map fun r =>
    if r.tenantId = tenant then { r with eventType := type } else r
  return ((t.events.filter (·.tenantId = tenant)).length, { t with events := events })

/-- The number of rows of a table. -/
def count (t : Tables) : TableName → Nat
  | .accounts => t.accounts.length
  | .ledgerEntries => t.entries.length
  | .invoices => t.invoices.length
  | .lineItems => t.lines.length
  | .sequences => t.sequences.length
  | .events => t.events.length

/-- Whether rows of a table can be changed and removed. -/
def isOpen : TableName → Bool
  | .ledgerEntries | .invoices | .lineItems => false
  | _ => true

/-- Writes every row of a table again as it is, and says how many they are. -/
def touchAll (table : TableName) (t : Tables) : Except SqlFault Nat :=
  if isOpen table || t.count table = 0 then .ok (t.count table)
  else .error (.forbidden "UPDATE" (Choice.word table))

/-- Removes every row of a table, and says how many they were. -/
def removeAll (table : TableName) (t : Tables) : Except SqlFault (Nat × Tables) :=
  if !isOpen table && t.count table ≠ 0 then .error (.forbidden "DELETE" (Choice.word table))
  else match table with
    | .accounts =>
      if t.entries.any fun e => t.hasAccount e.tenantId e.accountId then
        .error (.stillReferenced "accounts" "fk_ledger_entries_account" "ledger_entries")
      else .ok (t.accounts.length, { t with accounts := [] })
    | .sequences => .ok (t.sequences.length, { t with sequences := [] })
    | .events => .ok (t.events.length, { t with events := [] })
    | _ => .ok (0, t)

/-! ## Queries -/

/-- The tenant's account with an identifier. -/
def account? (t : Tables) (tenant account : Uuid) : Option AccountRow :=
  t.accounts.find? fun a => a.tenantId = tenant && a.accountId = account

/-- The tenant's accounts, by name and then by identifier. -/
def accountsByName (t : Tables) (tenant : Uuid) : List AccountRow :=
  (t.accounts.filter (·.tenantId = tenant)).mergeSort fun a b =>
    (compare a.name b.name).then (compare a.accountId b.accountId) != .gt

/-- The tenant's accounts of a frequency, by identifier. -/
def accountsWithFrequency (t : Tables) (tenant : Uuid) (f : InvoiceFrequency) : List AccountRow :=
  (t.accounts.filter fun a => a.tenantId = tenant && a.frequency = f).mergeSort fun a b =>
    compare a.accountId b.accountId != .gt

/-- The entries of one of the tenant's accounts, by time and then by
identifier. -/
def accountEntries (t : Tables) (tenant account : Uuid) : List EntryRow :=
  (t.entries.filter fun e => e.tenantId = tenant && e.accountId = account).mergeSort fun a b =>
    (compare a.createdAt b.createdAt).then (compare a.entryId b.entryId) != .gt

/-- Whether an event has an entry. -/
def hasSource (t : Tables) (tenant account : Uuid) (source : SourceType) (reference : String) :
    Except SqlFault Bool := do
  let reference ← Parameter.text reference
  return (t.accountEntries tenant account).any fun e =>
    e.sourceType = source && e.reference = reference

/-- Debits less credits of receivable entries, if asked only of those before an
instant. -/
def receivableBalance (t : Tables) (tenant account : Uuid) (before : Option Instant) :
    Except SqlFault Decimal := do
  let before ← before.mapM Parameter.instant
  let entries := (t.accountEntries tenant account).filter fun e =>
    e.ledgerAccount = .accountsReceivable && before.all (e.createdAt < ·)
  Column.total (entries.flatMap fun e => [e.debitAmount, e.creditAmount.neg])

/-- The receivable entries from an instant to another one, both included. -/
def receivableEntries (t : Tables) (tenant account : Uuid) (range : StatementRange) :
    Except SqlFault (List EntryRow) := do
  let start ← Parameter.instant range.start
  let finish ← Parameter.instant range.finish
  return (t.accountEntries tenant account).filter fun e =>
    e.ledgerAccount = .accountsReceivable && start ≤ e.createdAt && e.createdAt ≤ finish

/-- The receivable entries of a source in a period. -/
def entriesInPeriod (t : Tables) (tenant account : Uuid) (source : SourceType)
    (period : BillingPeriod) : Except SqlFault (List EntryRow) := do
  let start ← Parameter.instant period.startInstant
  let finish ← Parameter.instant period.endInstant
  return (t.accountEntries tenant account).filter fun e =>
    e.sourceType = source && e.ledgerAccount = .accountsReceivable && start ≤ e.createdAt
      && e.createdAt < finish

/-- Whether a line of the tenant bills an entry. -/
def isBilled (t : Tables) (tenant entry : Uuid) : Bool :=
  t.lines.any fun l => l.tenantId = tenant && l.entryId = entry

/-- The debits of a period that no line bills. -/
def unbilledCharges (t : Tables) (tenant account : Uuid) (period : BillingPeriod) :
    Except SqlFault (List EntryRow) := do
  return (← t.entriesInPeriod tenant account .rideCharge period).filter fun e =>
    Decimal.zero.lt e.debitAmount && !t.isBilled tenant e.entryId

/-- The payment credits of a period. -/
def paymentsInPeriod (t : Tables) (tenant account : Uuid) (period : BillingPeriod) :
    Except SqlFault (List EntryRow) := do
  return (← t.entriesInPeriod tenant account .payment period).filter fun e =>
    Decimal.zero.lt e.creditAmount

/-- The sums of the tenant's debits and credits of each ledger account that has
entries, in the order of the ledger accounts. -/
def totals (t : Tables) (tenant : Uuid) : Except SqlFault (List AccountTotals) :=
  let entries := t.entries.filter (·.tenantId = tenant)
  let used := (Choice.values : List LedgerAccount).filter fun a =>
    entries.any (·.ledgerAccount = a)
  used.mapM fun a => do
    let entries := entries.filter (·.ledgerAccount = a)
    return { account := a, debits := .ofDecimal (← Column.total (entries.map (·.debitAmount)))
             credits := .ofDecimal (← Column.total (entries.map (·.creditAmount))) }

/-- The lines of one of the tenant's invoices. -/
def linesOf (t : Tables) (tenant invoice : Uuid) : List LineRow :=
  (t.lines.filter fun l => l.tenantId = tenant && l.invoiceId = invoice).mergeSort LineRow.dateLe

/-- The tenant's invoice with an identifier. -/
def invoice? (t : Tables) (tenant invoice : Uuid) : Option InvoiceRow :=
  t.invoices.find? fun i => i.tenantId = tenant && i.invoiceId = invoice

/-- The tenant's invoice with a number. -/
def invoiceByNumber? (t : Tables) (tenant : Uuid) (number : String) :
    Except SqlFault (Option InvoiceRow) := do
  let number ← Parameter.text number
  return t.invoices.find? fun i => i.tenantId = tenant && i.number = number

/-- The invoices of one of the tenant's accounts, the newest first. -/
def invoicesOf (t : Tables) (tenant account : Uuid) : List InvoiceRow :=
  (t.invoices.filter fun i => i.tenantId = tenant && i.accountId = account).mergeSort
    InvoiceRow.newestLe

/-- The tenant's first events without a stamp. -/
def pendingEvents (t : Tables) (tenant : Uuid) (limit : Nat) : List EventRow :=
  (t.events.filter fun e => e.tenantId = tenant && e.dispatchedAt.isNone).take limit

end Tables

end RideLedger
