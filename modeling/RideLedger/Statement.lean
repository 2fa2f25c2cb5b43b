import RideLedger.Entry
import RideLedger.Page

/-!
# Statements and the trial balance

A statement lists the receivable entries of an account in a range of time, each
with the balance after it. The trial balance adds up all debits and all credits
of each ledger account.
-/

namespace RideLedger

/-- One entry of a statement. -/
structure StatementLine where
  entry : EntryId
  postedAt : Instant
  sourceType : SourceType
  reference : String
  description : Option String
  debit : Money
  credit : Money
  running : Money

/-- A page of an account's entries, with the balances around all of them. -/
structure Statement where
  account : AccountId
  range : StatementRange
  opening : Money
  closing : Money
  lines : Page StatementLine

namespace StatementLine

/-- The line of an entry, with the balance after it. -/
def ofEntry (e : LedgerEntry) (running : Money) : StatementLine :=
  { entry := e.id, postedAt := e.createdAt, sourceType := e.sourceType
    reference := e.reference, description := e.description, debit := e.debitAmount
    credit := e.creditAmount, running := running }

end StatementLine

namespace Statement

/-- The lines of entries after an opening balance, and the balance after the
last. -/
def run (balance : Money) : List LedgerEntry → Except RangeFault (List StatementLine × Money)
  | [] => .ok ([], balance)
  | e :: rest => do
    let balance ← balance.add e.receivableDelta
    let (lines, closing) ← run balance rest
    return (.ofEntry e balance :: lines, closing)

/-- Whether an entry has a place on a statement. -/
def belongs (account : AccountId) (range : StatementRange) (e : LedgerEntry) : Bool :=
  e.account = account && e.ledgerAccount = .accountsReceivable && range.contains e.createdAt

/-- Builds the statement of entries in any order. -/
def build (account : AccountId) (range : StatementRange) (opening : Money)
    (entries : List LedgerEntry) (page : PageRequest) : Outcome Statement := do
  if let some stray := entries.find? (!belongs account range ·) then
    Outcome.refuse (.strayEntry stray.id)
  let (lines, closing) ← run opening (LedgerEntry.sortByTime entries)
  return { account := account, range := range, opening := opening, closing := closing
           lines := .ofAll lines page }

end Statement

/-- The debits and credits of a ledger account. -/
structure AccountTotals where
  account : LedgerAccount
  debits : Money
  credits : Money
deriving DecidableEq

namespace AccountTotals

def zero (account : LedgerAccount) : AccountTotals :=
  { account := account, debits := Money.zero, credits := Money.zero }

/-- The totals with further debits and credits. -/
def add (t : AccountTotals) (debits credits : Money) : Except RangeFault AccountTotals := do
  return { t with debits := ← t.debits.add debits, credits := ← t.credits.add credits }

/-- Debits less credits. -/
def net (t : AccountTotals) : Except RangeFault Money := t.debits.sub t.credits

/-- The totals of entries, in the order of the ledger accounts; accounts without
entries are left out. -/
def ofEntries (entries : List LedgerEntry) : Except RangeFault (List AccountTotals) :=
  ((Choice.values : List LedgerAccount).filter fun a => entries.any (·.ledgerAccount = a)).mapM
    fun a => (entries.filter (·.ledgerAccount = a)).foldlM
      (fun t e => t.add e.debitAmount e.creditAmount) (zero a)

end AccountTotals

/-- The totals of all ledger accounts and their sums. -/
structure TrialBalance where
  lines : List AccountTotals
  totalDebits : Money
  totalCredits : Money

namespace TrialBalance

/-- Adds up totals by ledger account. -/
def ofTotals (totals : List AccountTotals) : Except RangeFault TrialBalance := do
  let lines ← (Choice.values : List LedgerAccount).mapM fun a =>
    (totals.filter (·.account = a)).foldlM (fun acc t => acc.add t.debits t.credits)
      (AccountTotals.zero a)
  return { lines := lines, totalDebits := ← Money.sum (lines.map (·.debits))
           totalCredits := ← Money.sum (lines.map (·.credits)) }

/-- Whether debits and credits are equal. -/
def isBalanced (t : TrialBalance) : Bool := t.totalDebits.sameValue t.totalCredits

/-- The line of a ledger account. -/
def line? (t : TrialBalance) (account : LedgerAccount) : Option AccountTotals :=
  t.lines.find? (·.account = account)

/-- Debits less credits of each ledger account; zero without a line. -/
def nets (t : TrialBalance) : Except RangeFault (List Money) :=
  (Choice.values : List LedgerAccount).mapM fun account =>
    match t.line? account with
    | some line => line.net
    | none => .ok Money.zero

end TrialBalance

instance : ToJson StatementLine where
  toJson l := .object
    [("ledger_entry_id", toJson l.entry), ("posted_at", toJson l.postedAt),
      ("source_type", toJson l.sourceType), ("source_reference_id", toJson l.reference),
      ("description", toJson l.description), ("debit", toJson l.debit),
      ("credit", toJson l.credit), ("running_balance", toJson l.running)]

instance : OfJson StatementLine where
  ofJson? j := do
    match ← j.fields? ["ledger_entry_id", "posted_at", "source_type", "source_reference_id",
        "description", "debit", "credit", "running_balance"] 0 with
    | [entry, at_, source, reference, description, debit, credit, running] =>
      some { entry := ← Json.required? entry, postedAt := ← Json.required? at_
             sourceType := ← Json.required? source, reference := ← Json.required? reference
             description := ← Json.optional? description, debit := ← Json.required? debit
             credit := ← Json.required? credit, running := ← Json.required? running }
    | _ => none

instance : ToJson Statement where
  toJson s := .object
    [("account_id", toJson s.account), ("range", toJson s.range),
      ("opening_balance", toJson s.opening), ("closing_balance", toJson s.closing),
      ("transactions", toJson s.lines)]

instance : OfJson Statement where
  ofJson? j := do
    match ← j.fields? ["account_id", "range", "opening_balance", "closing_balance",
        "transactions"] 0 with
    | [account, range, opening, closing, lines] =>
      some { account := ← Json.required? account, range := ← Json.required? range
             opening := ← Json.required? opening, closing := ← Json.required? closing
             lines := ← Json.required? lines }
    | _ => none

instance : ToJson AccountTotals where
  toJson t := .object
    [("ledger_account", toJson t.account), ("debits", toJson t.debits),
      ("credits", toJson t.credits)]

instance : OfJson AccountTotals where
  ofJson? j := do
    match ← j.fields? ["ledger_account", "debits", "credits"] 0 with
    | [account, debits, credits] =>
      some { account := ← Json.required? account, debits := ← Json.required? debits
             credits := ← Json.required? credits }
    | _ => none

instance : ToJson TrialBalance where
  toJson t := .object
    [("lines", toJson t.lines), ("total_debits", toJson t.totalDebits),
      ("total_credits", toJson t.totalCredits)]

instance : OfJson TrialBalance where
  ofJson? j := do
    match ← j.fields? ["lines", "total_debits", "total_credits"] 0 with
    | [lines, debits, credits] =>
      some { lines := ← Json.required? lines, totalDebits := ← Json.required? debits
             totalCredits := ← Json.required? credits }
    | _ => none

end RideLedger
