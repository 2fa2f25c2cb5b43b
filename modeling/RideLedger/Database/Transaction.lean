import RideLedger.Database.Tables
import RideLedger.StoreRequest

/-!
# Database transactions

The store operations as work on tables. Work ends in a value and new tables or
in a fault, and a fault leaves the tables as they were, so an operation of
several statements happens as a whole or not at all. Writes that queue an event
look last whether the request was cancelled.
-/

namespace RideLedger

/-- Work on tables, which ends in a fault or goes on with new tables. -/
abbrev TableWork := StateT Tables (ExceptT StoreFault (Except RangeFault))

namespace TableWork

variable {α : Type}

/-- The fault of a statement: a repeated key of the given constraint is the
given conflict. -/
def faultOf (conflicts : List (String × String)) (e : DatabaseError) : StoreFault :=
  match conflicts.find? fun (constraint, _) => e.isDuplicateOn constraint with
  | some (_, text) => .conflict text
  | none => e.toStoreFault

/-- A result of the database. -/
def ofResult (r : Except DatabaseError α) : TableWork α :=
  match r with
  | .ok a => pure a
  | .error e => throw e.toStoreFault

/-- A question to the tables. -/
def query (q : Tables → Except SqlFault α) : TableWork α := do
  match q (← get) with
  | .ok a => pure a
  | .error fault => throw (DatabaseError.ofSqlFault fault).toStoreFault

/-- A change of the tables. -/
def change (conflicts : List (String × String)) (s : Tables → Except SqlFault Tables) :
    TableWork Unit := do
  match s (← get) with
  | .ok t => set t
  | .error fault => throw (faultOf conflicts (.ofSqlFault fault))

/-- A change of one row, which has to be there. -/
def changeOne (missing : StoreFault) (conflicts : List (String × String))
    (s : Tables → Except SqlFault (Option Tables)) : TableWork Unit := do
  match s (← get) with
  | .ok (some t) => set t
  | .ok none => throw missing
  | .error fault => throw (faultOf conflicts (.ofSqlFault fault))

/-- The end of a write: a cancelled request does not get this far. -/
def commit (cancelled : Bool) : TableWork Unit :=
  if cancelled then throw .cancelled else pure ()

/-- An invoice with its lines. -/
def readInvoice (row : InvoiceRow) : TableWork Invoice := do
  let lines := (← get).linesOf row.tenantId row.invoiceId
  match ← (row.toInvoice lines).run with
  | .ok invoice => pure invoice
  | .error e => throw e.toStoreFault

/-- A page of rows, each read. -/
def readPage {ρ : Type} (page : PageRequest) (rows : List ρ) (read : ρ → TableWork α) :
    TableWork (Page α) := do
  return .new (← (page.slice rows).mapM read) page rows.length

/-- The conflict of a name that is taken. -/
def nameConflict (a : Account) : List (String × String) :=
  [("uq_accounts_tenant_name", "account name '" ++ a.name ++ "' already exists")]

/-! ## Transactions -/

/-- Appends the entries of a transaction and its event. The account is there
and takes postings. -/
def append (cancelled : Bool) (ctx : RequestContext) (t : LedgerTransaction) (event : EventId) :
    TableWork Unit := do
  match (← get).account? ctx.tenant.uuid t.account.uuid with
  | none => throw (.notFound "Account" t.account.uuid.toText)
  | some account =>
    if account.status ≠ .active then throw (.inactive "Account" t.account.uuid.toText)
  let conflicts :=
    [("uq_ledger_entries_source", "transaction " ++ t.key.toText ++ " already recorded")]
  for entry in t.entries do
    change conflicts fun tables => tables.insertEntry (.ofEntry entry)
  change [] fun tables => tables.insertEvent (.ofEvent (.ofTransaction event t))
  commit cancelled

/-- Checks the entries of a draft: they belong to its account, and none is on a
line. -/
def checkDraft (ctx : RequestContext) (d : InvoiceDraft) : TableWork Unit := do
  let t ← get
  let entries := d.entryIds.map (·.uuid)
  let owned := t.accountEntries ctx.tenant.uuid d.account.uuid
  if let some missing := entries.find? fun e => !owned.any (·.entryId = e) then
    throw (.notFound "LedgerEntry" missing.toText)
  let billed := t.lines.find? fun l => l.tenantId = ctx.tenant.uuid && l.entryId ∈ entries
  if let some line := billed then
    throw (.conflict ("ledger entry " ++ line.entryId.toText ++ " is already invoiced"))

/-- Numbers a draft and adds the invoice, its lines and its event. -/
def addInvoice (cancelled : Bool) (ctx : RequestContext) (d : InvoiceDraft) (event : EventId) :
    TableWork Invoice := do
  let (sequence, t) ← query fun t =>
    t.nextSequence ctx.tenant.uuid (InvoiceNumber.periodKey d.issueDate)
  set t
  let invoice ← d.toInvoice (.new d.issueDate sequence.toNat)
  change
    [("uq_line_items_tenant_entry", "a ledger entry on this invoice was billed concurrently"),
      ("uq_invoices_tenant_number", "invoice number " ++ invoice.number.text ++ " already exists")]
    fun t => t.insertWholeInvoice invoice
  change [] fun t => t.insertEvent (.ofEvent (.ofInvoice event invoice))
  commit cancelled
  return invoice

/-- Reads the entries of rows. -/
def readEntries (rows : Tables → Except SqlFault (List EntryRow)) :
    TableWork (List LedgerEntry) := do
  (← query rows).mapM fun row => ofResult row.toEntry

/-- The work of a request. -/
def ofRequest (cancelled : Bool) : (request : StoreRequest) → TableWork request.Reply
  | .insertAccount _ a => change (nameConflict a) fun t => t.insertAccount (.ofAccount a)
  | .updateAccount _ a =>
    changeOne (.notFound "Account" a.id.uuid.toText) (nameConflict a) fun t =>
      t.updateAccount (.ofAccount a)
  | .findAccount ctx id => do
    ((← get).account? ctx.tenant.uuid id.uuid).mapM fun row => ofResult row.toAccount
  | .listAccounts ctx page => do
    readPage page ((← get).accountsByName ctx.tenant.uuid) fun row => ofResult row.toAccount
  | .accountsWithFrequency ctx f => do
    ((← get).accountsWithFrequency ctx.tenant.uuid f).mapM fun row => ofResult row.toAccount
  | .appendTransaction ctx t event => append cancelled ctx t event
  | .transactionExists ctx key =>
    query fun t => t.hasSource ctx.tenant.uuid key.account.uuid key.sourceType key.reference
  | .receivableBalance ctx account before => do
    return .ofDecimal (← query fun t => t.receivableBalance ctx.tenant.uuid account.uuid before)
  | .receivableEntries ctx account range =>
    readEntries fun t => t.receivableEntries ctx.tenant.uuid account.uuid range
  | .ledgerTotals ctx => query fun t => t.totals ctx.tenant.uuid
  | .unbilledCharges ctx account period =>
    readEntries fun t => t.unbilledCharges ctx.tenant.uuid account.uuid period
  | .paymentsInPeriod ctx account period =>
    readEntries fun t => t.paymentsInPeriod ctx.tenant.uuid account.uuid period
  | .insertInvoice ctx d event => do
    checkDraft ctx d
    addInvoice cancelled ctx d event
  | .findInvoice ctx id => do
    ((← get).invoice? ctx.tenant.uuid id.uuid).mapM readInvoice
  | .findInvoiceByNumber ctx number => do
    (← query fun t => t.invoiceByNumber? ctx.tenant.uuid number.text).mapM readInvoice
  | .listInvoices ctx account page => do
    readPage page ((← get).invoicesOf ctx.tenant.uuid account.uuid) readInvoice
  | .pendingEvents ctx limit => do
    ((← get).pendingEvents ctx.tenant.uuid limit.toNat).mapM fun row => ofResult row.toEvent
  | .markDispatched ctx event at_ =>
    changeOne (.notFound "OutboxEvent" event.uuid.toText) [] fun t =>
      t.stampEvent ctx.tenant.uuid event.uuid at_

end TableWork

end RideLedger
