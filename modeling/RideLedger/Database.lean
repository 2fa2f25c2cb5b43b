import RideLedger.Database.Schema
import RideLedger.Database.Transaction

/-!
# The store in a database

A store that keeps everything in the tables of a relational database, which it
reaches through a pool of connections. A request first has to be one of its
context, then it needs a connection, then the tables have to be there, and then
its work begins.
-/

namespace RideLedger

/-- A pool of connections. -/
structure Pool where
  limit : Nat
  /-- How many connections are held by others. -/
  held : Nat
  closed : Bool

namespace Pool

/-- An open pool of the usual size. -/
def default : Pool := { limit := 5, held := 0, closed := false }

/-- Refuses a connection when there is none. -/
def connect (p : Pool) : Except SqlFault Unit :=
  if p.closed then .error .poolClosed
  else if p.limit ≤ p.held then .error .poolTimedOut
  else .ok ()

end Pool

/-- A database and the way to it. -/
structure Database where
  pool : Pool
  schema : Schema

namespace Database

variable {α : Type}

/-- The fault of a request that may not begin: it writes for another tenant, or
it changes an account and was cancelled. -/
def refusal? (cancelled : Bool) : StoreRequest → Option StoreFault
  | .insertAccount ctx a | .updateAccount ctx a =>
    if a.tenant ≠ ctx.tenant then some (foreign a.tenant)
    else if cancelled then some .cancelled else none
  | .appendTransaction ctx t _ => if t.tenant ≠ ctx.tenant then some (foreign t.tenant) else none
  | .insertInvoice ctx d _ => if d.tenant ≠ ctx.tenant then some (foreign d.tenant) else none
  | _ => none
where
  /-- The fault of a write for another tenant. -/
  foreign (tenant : TenantId) : StoreFault :=
    .unauthorized ("entity belongs to tenant " ++ tenant.toText)

/-- The first thing that a request finds missing where there are no tables. -/
def missingPart : StoreRequest → SqlFault
  | .insertAccount .. => .missingType "account_type"
  | .updateAccount .. => .missingType "account_status"
  | .accountsWithFrequency .. => .missingType "invoice_frequency"
  | .transactionExists .. => .missingType "source_type"
  | .findAccount .. | .listAccounts .. | .appendTransaction .. => .missingTable "accounts"
  | .receivableBalance .. | .receivableEntries .. | .ledgerTotals .. | .unbilledCharges ..
  | .paymentsInPeriod .. | .insertInvoice .. => .missingTable "ledger_entries"
  | .findInvoice .. | .findInvoiceByNumber .. | .listInvoices .. => .missingTable "invoices"
  | .pendingEvents .. | .markDispatched .. => .missingTable "outbox_events"

/-- The database with other tables. -/
def withTables (d : Database) (t : Tables) : Database :=
  { d with schema := { d.schema with tables := some t } }

/-- The tables, once there is a connection. -/
def reach (missing : SqlFault) (d : Database) : Except DatabaseError Tables :=
  match d.pool.connect, d.schema.tables with
  | .error fault, _ => .error (.ofSqlFault fault)
  | .ok (), none => .error (.ofSqlFault missing)
  | .ok (), some t => .ok t

/-- Does work on tables. -/
def work (w : TableWork α) (t : Tables) (d : Database) :
    Except RangeFault (Except StoreFault α × Database) := do
  match ← w.run t with
  | .error fault => return (.error fault, d)
  | .ok (a, t) => return (.ok a, d.withTables t)

/-- Answers a request. -/
def serve (cancelled : Bool) (request : StoreRequest) (d : Database) :
    Except RangeFault (request.Answer × Database) :=
  match refusal? cancelled request, d.reach (missingPart request) with
  | some fault, _ => .ok (.error fault, d)
  | none, .error e => .ok (.error e.toStoreFault, d)
  | none, .ok t => d.work (.ofRequest cancelled request) t

/-- The store's report on itself. -/
def health (at_ : Instant) (d : Database) : HealthReport :=
  let remark := match d.pool.connect with
    | .ok () => none
    | .error fault => some ("Database error: " ++ fault.message)
  { adapter := "postgres-billing-store", status := if remark.isNone then .healthy else .unhealthy
    latencyMillis := 0, remark := remark, checkedAt := at_ }

/-! ## The database from outside

What can be done to the database without the store: looking at its tables,
holding connections, and changing rows and the history. -/

/-- The result of a statement from outside: a number of rows. -/
abbrev RowCount := Except DatabaseError (Nat × Database)

/-- A statement on the tables. -/
def statement (table : TableName) (s : Tables → Except SqlFault (Nat × Tables)) (d : Database) :
    RowCount := do
  let t ← d.reach (.missingTable (Choice.word table))
  match s t with
  | .error fault => .error (.ofSqlFault fault)
  | .ok (n, t) => .ok (n, d.withTables t)

/-- The number of rows of every table. -/
def counts (d : Database) : Except DatabaseError (List (TableName × Nat)) := do
  let t ← d.reach (.missingTable (Choice.word TableName.accounts))
  return Choice.values.map fun table => (table, t.count table)

/-- Writes every row of a table again, or removes them all. -/
def mutate (table : TableName) (remove : Bool) : Database → RowCount :=
  statement table fun t =>
    if remove then t.removeAll table else do return (← t.touchAll table, t)

/-- Sets the sequence of a month, or removes it. -/
def setSequence (tenant : TenantId) (month : String) (last : Option Int) : Database → RowCount :=
  statement .sequences fun t =>
    match last with
    | some last => do return (1, ← t.setSequence tenant.uuid month last)
    | none => t.removeSequence tenant.uuid month

/-- Renames the type of a tenant's events. -/
def renameEvents (tenant : TenantId) (type : String) : Database → RowCount :=
  statement .events (Tables.renameEvents tenant.uuid type)

/-- Changes the history of migrations. -/
def changeHistory (change : Schema.HistoryChange) (d : Database) : RowCount := do
  if let .error fault := d.pool.connect then throw (.ofSqlFault fault)
  match d.schema.changeHistory change with
  | .error fault => .error (.ofSqlFault fault)
  | .ok (n, schema) => .ok (n, { d with schema := schema })

/-- Brings the schema up to date. -/
def migrate (d : Database) : Except DatabaseError Unit × Database :=
  match d.pool.connect with
  | .error fault => (.error (.migrationFailed ("while executing migrations: " ++ fault.message)), d)
  | .ok () =>
    let (result, schema) := d.schema.migrate
    (result, { d with schema := schema })

/-- Holds one more connection, and says how many are held. -/
def hold (d : Database) : RowCount := do
  if let .error fault := d.pool.connect then throw (.ofSqlFault fault)
  return (d.pool.held + 1, { d with pool := { d.pool with held := d.pool.held + 1 } })

/-- Gives back all held connections. -/
def release (d : Database) : Database := { d with pool := { d.pool with held := 0 } }

/-- Closes the pool. -/
def close (d : Database) : Database := { d with pool := { d.pool with held := 0, closed := true } }

/-- Adds an invoice while another one for the same charges is being added: the
rival's rows come in between the checks of the draft and its own rows. A rival
that is refused ends it. -/
def raceInvoice (cancelled : Bool) (ctx : RequestContext) (draft rival : InvoiceDraft)
    (number : InvoiceNumber) (event : EventId) (d : Database) :
    Except RangeFault (Except DatabaseError (Except StoreFault Invoice × Database)) := do
  let invoice ← rival.toInvoice number
  match d.reach (.missingTable (Choice.word TableName.invoices)) with
  | .error e => return .error e
  | .ok before =>
    match before.insertWholeInvoice invoice with
    | .error fault => return .error (.ofSqlFault fault)
    | .ok after =>
      let d := d.withTables after
      match refusal? cancelled (.insertInvoice ctx draft event),
          ← ((TableWork.checkDraft ctx draft).run before).run with
      | some fault, _ => return .ok (.error fault, d)
      | none, .error fault => return .ok (.error fault, d)
      | none, .ok _ => return .ok (← d.work (.addInvoice cancelled ctx draft event) after)

end Database

end RideLedger
