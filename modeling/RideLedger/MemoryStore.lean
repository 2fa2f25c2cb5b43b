import RideLedger.StoreRequest
import RideLedger.WriteOnce

/-!
# The store in memory

A store that keeps everything in lists and write-once maps. An operation checks
everything first and writes then; what it wrote before a fault stays.

`serve` answers every store request. It is told whether the request was
cancelled, which writes look at last before they write.
-/

namespace RideLedger

/-- Everything the store holds, of all tenants. -/
structure MemoryStore where
  accounts : List Account
  entries : WriteOnce EntryId LedgerEntry
  /-- The events that were recorded. -/
  keys : List (TenantId × TransactionKey)
  invoices : WriteOnce InvoiceId Invoice
  /-- The invoice of every billed entry. -/
  billed : WriteOnce (TenantId × EntryId) InvoiceId
  /-- The last sequence of every month. -/
  sequences : List ((TenantId × String) × UInt32)
  outbox : List OutboxEvent

namespace MemoryStore

/-- The store without contents. -/
def empty : MemoryStore :=
  { accounts := [], entries := .empty "LedgerEntry", keys := [], invoices := .empty "Invoice"
    billed := .empty "InvoiceLineItem", sequences := [], outbox := [] }

/-- The result of an operation and the store after it. -/
abbrev Result (α : Type) := Except StoreFault α × MemoryStore

/-- The tenant's entries. -/
def tenantEntries (s : MemoryStore) (tenant : TenantId) : List LedgerEntry :=
  s.entries.values.filter (·.tenant = tenant)

/-- The entries of one of the tenant's accounts. -/
def accountEntries (s : MemoryStore) (tenant : TenantId) (account : AccountId) :
    List LedgerEntry :=
  (s.tenantEntries tenant).filter (·.account = account)

/-- The tenant's account with an identifier. -/
def account? (s : MemoryStore) (tenant : TenantId) (id : AccountId) : Option Account :=
  (s.accounts.find? (·.id = id)).filter (·.tenant = tenant)

/-- The fault of a write for another tenant. -/
def foreign (tenant : TenantId) : StoreFault :=
  .unauthorized ("entity belongs to tenant " ++ tenant.toText)

/-! ## Accounts -/

/-- Adds an account with a new name and identifier. -/
def insertAccount (cancelled : Bool) (ctx : RequestContext) (a : Account) (s : MemoryStore) :
    Result Unit :=
  if a.tenant ≠ ctx.tenant then (.error (foreign a.tenant), s)
  else if cancelled then (.error .cancelled, s)
  else if s.accounts.any fun b => b.tenant = ctx.tenant && b.name = a.name then
    (.error (.conflict ("account name '" ++ a.name ++ "' already exists")), s)
  else if s.accounts.any (·.id = a.id) then
    (.error (.conflict ("account " ++ a.id.toText ++ " already exists")), s)
  else (.ok (), { s with accounts := s.accounts ++ [a] })

/-- Puts an account in the place of the stored one. -/
def updateAccount (cancelled : Bool) (ctx : RequestContext) (a : Account) (s : MemoryStore) :
    Result Unit :=
  if a.tenant ≠ ctx.tenant then (.error (foreign a.tenant), s)
  else if cancelled then (.error .cancelled, s)
  else match s.account? ctx.tenant a.id with
    | none => (.error (.notFound "Account" a.id.toText), s)
    | some _ =>
      (.ok (), { s with accounts := s.accounts.map fun b => if b.id = a.id then a else b })

/-- Orders accounts by name, then by identifier. -/
def nameLe (a b : Account) : Bool := (compare a.name b.name).then (compare a.id b.id) != .gt

/-- The tenant's accounts by name. -/
def listAccounts (ctx : RequestContext) (page : PageRequest) (s : MemoryStore) : Page Account :=
  .ofAll ((s.accounts.filter (·.tenant = ctx.tenant)).mergeSort nameLe) page

/-- The tenant's accounts of a frequency, by identifier. -/
def accountsWithFrequency (ctx : RequestContext) (f : InvoiceFrequency) (s : MemoryStore) :
    List Account :=
  (s.accounts.filter fun a => a.tenant = ctx.tenant && a.frequency = f).mergeSort
    fun a b => compare a.id b.id != .gt

/-! ## The ledger -/

/-- Writes entries one after another; the first that is there already ends
it. -/
def insertEntries (s : MemoryStore) : List LedgerEntry → Result Unit
  | [] => (.ok (), s)
  | e :: rest =>
    match s.entries.insert e.id e with
    | .error fault => (.error fault, s)
    | .ok entries => insertEntries { s with entries := entries } rest

/-- Appends a transaction with its key and event. -/
def appendTransaction (cancelled : Bool) (ctx : RequestContext) (t : LedgerTransaction)
    (event : EventId) (s : MemoryStore) : Result Unit :=
  if t.tenant ≠ ctx.tenant then (.error (foreign t.tenant), s)
  else match s.account? ctx.tenant t.account with
    | none => (.error (.notFound "Account" t.account.toText), s)
    | some account =>
      if !account.canReceive then (.error (.inactive "Account" account.id.toText), s)
      else if (ctx.tenant, t.key) ∈ s.keys then
        (.error (.conflict ("transaction " ++ t.key.toText ++ " already recorded")), s)
      else match t.entries.find? fun e => s.entries.contains e.id with
        | some e => (.error (.immutable "LedgerEntry" e.id.toText), s)
        | none =>
          if cancelled then (.error .cancelled, s)
          else match insertEntries s t.entries with
            | (.error fault, s) => (.error fault, s)
            | (.ok (), s) =>
              (.ok (), { s with keys := s.keys ++ [(ctx.tenant, t.key)]
                                outbox := s.outbox ++ [.ofTransaction event t] })

/-- What an account owes from entries before an instant. -/
def receivableBalance (ctx : RequestContext) (account : AccountId) (before : Option Instant)
    (s : MemoryStore) : Except RangeFault Money :=
  Money.sum (((s.accountEntries ctx.tenant account).filter fun e =>
    before.all (e.createdAt < ·)).map (·.receivableDelta))

/-- The receivable entries of an account in a range, by time. -/
def receivableEntries (ctx : RequestContext) (account : AccountId) (range : StatementRange)
    (s : MemoryStore) : List LedgerEntry :=
  LedgerEntry.sortByTime ((s.accountEntries ctx.tenant account).filter fun e =>
    e.ledgerAccount = .accountsReceivable && range.contains e.createdAt)

/-! ## Invoices -/

/-- The billable entries of a period that no invoice has, by time. -/
def unbilledCharges (ctx : RequestContext) (account : AccountId) (period : BillingPeriod)
    (s : MemoryStore) : List LedgerEntry :=
  LedgerEntry.sortByTime ((s.accountEntries ctx.tenant account).filter fun e =>
    e.isBillable && period.contains e.createdAt && !s.billed.contains (ctx.tenant, e.id))

/-- The payments of a period, by time. -/
def paymentsInPeriod (ctx : RequestContext) (account : AccountId) (period : BillingPeriod)
    (s : MemoryStore) : List LedgerEntry :=
  LedgerEntry.sortByTime ((s.accountEntries ctx.tenant account).filter fun e =>
    e.isPaymentCredit && period.contains e.createdAt)

/-- The fault of billing an entry, if any: it is not there, or billed. -/
def billingFault? (s : MemoryStore) (tenant : TenantId) (account : AccountId) (entry : EntryId) :
    Option StoreFault :=
  if !(s.entries.get? entry).any fun e => e.tenant = tenant && e.account = account then
    some (.notFound "LedgerEntry" entry.toText)
  else if s.billed.contains (tenant, entry) then
    some (.conflict ("ledger entry " ++ entry.toText ++ " is already invoiced"))
  else none

/-- Marks entries as billed one after another; the first that is billed already
ends it. -/
def markBilled (s : MemoryStore) (tenant : TenantId) (invoice : InvoiceId) :
    List EntryId → Result Unit
  | [] => (.ok (), s)
  | e :: rest =>
    match s.billed.insert (tenant, e) invoice with
    | .error fault => (.error fault, s)
    | .ok billed => markBilled { s with billed := billed } tenant invoice rest

/-- The sequence after another one, if it has 32 bits. -/
def nextSequence? (last : UInt32) : Option UInt32 :=
  if last.toNat + 1 < UInt32.size then some (last + 1) else none

/-- Sets the value of a key. -/
def setSequence (key : TenantId × String) (value : UInt32) :
    List ((TenantId × String) × UInt32) → List ((TenantId × String) × UInt32)
  | [] => [(key, value)]
  | (k, v) :: rest => if k = key then (k, value) :: rest else (k, v) :: setSequence key value rest

/-- Writes a numbered invoice with its markers, its sequence and its event. -/
def writeInvoice (ctx : RequestContext) (sequence : UInt32) (invoice : Invoice) (event : EventId)
    (s : MemoryStore) : Result Invoice :=
  match s.markBilled ctx.tenant invoice.id (invoice.lines.map (·.entry)) with
  | (.error fault, s) => (.error fault, s)
  | (.ok (), s) =>
    let key := (ctx.tenant, InvoiceNumber.periodKey invoice.issueDate)
    let s := { s with sequences := setSequence key sequence s.sequences }
    match s.invoices.insert invoice.id invoice with
    | .error fault => (.error fault, s)
    | .ok invoices =>
      (.ok invoice, { s with invoices := invoices
                             outbox := s.outbox ++ [.ofInvoice event invoice] })

/-- Numbers and writes a draft. To count on from the last sequence of 32 bits is a fault. -/
def insertInvoice (cancelled : Bool) (ctx : RequestContext) (d : InvoiceDraft) (event : EventId)
    (s : MemoryStore) : Except RangeFault (Result Invoice) := do
  if d.tenant ≠ ctx.tenant then return (.error (foreign d.tenant), s)
  if let some fault := d.entryIds.findSome? (s.billingFault? ctx.tenant d.account) then
    return (.error fault, s)
  let key := (ctx.tenant, InvoiceNumber.periodKey d.issueDate)
  let sequence ← RangeFault.sequence.get (nextSequence? ((s.sequences.lookup key).getD 0))
  let invoice ← d.toInvoice (.new d.issueDate sequence.toNat)
  if s.invoices.values.any fun i => i.tenant = ctx.tenant && i.number = invoice.number then
    return (.error (.conflict ("invoice number " ++ invoice.number.text ++ " already exists")), s)
  if s.invoices.contains invoice.id then
    return (.error (.immutable "Invoice" invoice.id.toText), s)
  if cancelled then return (.error .cancelled, s)
  return s.writeInvoice ctx sequence invoice event

/-- The tenant's invoice with an identifier. -/
def findInvoice (ctx : RequestContext) (id : InvoiceId) (s : MemoryStore) : Option Invoice :=
  (s.invoices.get? id).filter (·.tenant = ctx.tenant)

/-- The tenant's invoice with a number. -/
def findInvoiceByNumber (ctx : RequestContext) (number : InvoiceNumber) (s : MemoryStore) :
    Option Invoice :=
  s.invoices.values.find? fun i => i.tenant = ctx.tenant && i.number = number

/-- An account's invoices, the newest first. -/
def listInvoices (ctx : RequestContext) (account : AccountId) (page : PageRequest)
    (s : MemoryStore) : Page Invoice :=
  .ofAll ((s.invoices.values.filter fun i =>
    i.tenant = ctx.tenant && i.account = account).mergeSort Invoice.newestLe) page

/-! ## Events -/

/-- The tenant's first events that wait for their dispatch. -/
def pendingEvents (ctx : RequestContext) (limit : UInt32) (s : MemoryStore) : List OutboxEvent :=
  (s.outbox.filter fun e => e.tenant = ctx.tenant && e.isPending).take limit.toNat

/-- Stamps the first event with an identifier. -/
def stampEvent (tenant : TenantId) (id : EventId) (at_ : Instant) :
    List OutboxEvent → Option (List OutboxEvent)
  | [] => none
  | e :: rest =>
    if e.id = id ∧ e.tenant = tenant then some (e.dispatch at_ :: rest)
    else (stampEvent tenant id at_ rest).map (e :: ·)

/-- Stamps one of the tenant's events as dispatched. -/
def markDispatched (ctx : RequestContext) (id : EventId) (at_ : Instant) (s : MemoryStore) :
    Result Unit :=
  match stampEvent ctx.tenant id at_ s.outbox with
  | none => (.error (.notFound "OutboxEvent" id.toText), s)
  | some outbox => (.ok (), { s with outbox := outbox })

/-! ## All operations -/

/-- Answers a request. -/
def serve (cancelled : Bool) (request : StoreRequest) (s : MemoryStore) :
    Except RangeFault (request.Answer × MemoryStore) :=
  match request with
  | .insertAccount ctx a => .ok (s.insertAccount cancelled ctx a)
  | .updateAccount ctx a => .ok (s.updateAccount cancelled ctx a)
  | .findAccount ctx id => .ok (.ok (s.account? ctx.tenant id), s)
  | .listAccounts ctx page => .ok (.ok (s.listAccounts ctx page), s)
  | .accountsWithFrequency ctx f => .ok (.ok (s.accountsWithFrequency ctx f), s)
  | .appendTransaction ctx t event => .ok (s.appendTransaction cancelled ctx t event)
  | .transactionExists ctx key => .ok (.ok (decide ((ctx.tenant, key) ∈ s.keys)), s)
  | .receivableBalance ctx account before => do
    return (.ok (← s.receivableBalance ctx account before), s)
  | .receivableEntries ctx account range => .ok (.ok (s.receivableEntries ctx account range), s)
  | .ledgerTotals ctx => do
    return (.ok (← AccountTotals.ofEntries (s.tenantEntries ctx.tenant)), s)
  | .unbilledCharges ctx account period => .ok (.ok (s.unbilledCharges ctx account period), s)
  | .paymentsInPeriod ctx account period => .ok (.ok (s.paymentsInPeriod ctx account period), s)
  | .insertInvoice ctx d event => s.insertInvoice cancelled ctx d event
  | .findInvoice ctx id => .ok (.ok (s.findInvoice ctx id), s)
  | .findInvoiceByNumber ctx number => .ok (.ok (s.findInvoiceByNumber ctx number), s)
  | .listInvoices ctx account page => .ok (.ok (s.listInvoices ctx account page), s)
  | .pendingEvents ctx limit => .ok (.ok (s.pendingEvents ctx limit), s)
  | .markDispatched ctx id at_ => .ok (s.markDispatched ctx id at_)

/-- The store's report on itself. -/
def health (at_ : Instant) : HealthReport :=
  { adapter := "in-memory-billing-store", status := .healthy, latencyMillis := 0, remark := none
    checkedAt := at_ }

end MemoryStore

end RideLedger
