import RideLedger.Database.Row
import RideLedger.Job.Settings
import RideLedger.Report.Error

/-!
# Reports of values

What clients are shown of amounts, periods, accounts, postings, invoices and
the results of the services.
-/

namespace RideLedger

/-- An amount with its shown form and its sign. -/
instance : Reported Money where
  report m := .object
    [("amount", toJson m), ("display", toJson m.display), ("zero", toJson m.isZero),
      ("positive", toJson m.isPositive), ("negative", toJson m.isNegative)]

/-- A period with its length, its ends, and which instants it contains. -/
def BillingPeriod.report (p : BillingPeriod) (instants : List Instant) : Json := .object
  [("period", toJson p), ("days", toJson p.days), ("empty", toJson p.isEmpty),
    ("start_instant", toJson p.startInstant), ("end_instant", toJson p.endInstant),
    ("contains", toJson (instants.map p.contains))]

/-- A page request with the items it takes from the numbers below `count`, out
of a total. -/
def PageRequest.report (r : PageRequest) (count total : Nat) : Json :=
  let page : Page Nat := .new (r.slice (List.range count)) r total
  .object [("request", toJson r), ("offset", toJson r.offset), ("limit", toJson r.limit),
    ("page", toJson page), ("total_pages", toJson page.totalPages),
    ("has_next", toJson page.hasNext)]

/-- An account with what it may do. -/
instance : Reported Account where
  report a := (toJson a).extend
    [("currency", toJson currencyCode), ("can_receive", toJson a.canReceive)]

/-- An entry with what it counts for. -/
instance : Reported LedgerEntry where
  report e := (toJson e).extend
    [("side", toJson e.side), ("amount", toJson e.amount),
      ("receivable_delta", toJson e.receivableDelta), ("billable", toJson e.isBillable),
      ("payment_credit", toJson e.isPaymentCredit), ("service_date", toJson e.serviceDate)]

/-- A transaction with its key and amount. -/
instance : Reported LedgerTransaction where
  report t := .object
    [("id", toJson t.id), ("debit", toJson t.debit), ("credit", toJson t.credit),
      ("key", toJson t.key.toText), ("amount", toJson t.amount)]

/-- An invoice with its sequence. -/
instance : Reported Invoice where
  report i := (toJson i).extend
    [("currency", toJson currencyCode), ("sequence", toJson i.number.sequence)]

/-- A draft with the entries it bills. -/
instance : Reported InvoiceDraft where
  report d := .object
    [("id", toJson d.id), ("account", toJson d.account), ("period", toJson d.period),
      ("issue_date", toJson d.issueDate), ("subtotal", toJson d.subtotal),
      ("payments_applied", toJson d.paymentsApplied), ("entries", toJson d.entryIds),
      ("line_items", toJson d.lines)]

instance : Reported OutboxEvent := ⟨toJson⟩

instance {α : Type} [Reported α] : Reported (Option α) :=
  ⟨fun | none => .null | some a => report a⟩

instance {α : Type} [Reported α] : Reported (List α) := ⟨fun items => .array (items.map report)⟩

/-- The place of a page among all pages. -/
def Page.place {α : Type} (p : Page α) : List (String × Json) :=
  [("total_pages", toJson p.totalPages), ("has_next", toJson p.hasNext)]

instance {α : Type} [Reported α] : Reported (Page α) where
  report p := .object ([("items", report p.items), ("page", toJson p.page),
    ("per_page", toJson p.perPage), ("total", toJson p.total)] ++ p.place)

/-- A charge, and its own invoice or the failure to have one. -/
instance : Reported RecordedCharge where
  report r :=
    let (hasInvoice, perRide) := match r.perRide with
      | none => (false, Json.null)
      | some (.ok i) => (true, .object [("generated", report i)])
      | some (.error e) => (false, .object [("failed", report e)])
    .object [("transaction", report r.transaction), ("has_invoice", .bool hasInvoice),
      ("per_ride", perRide)]

/-- The numbers of a page of invoices and what is open on them. -/
def invoiceListReport (p : Page Invoice) : Json :=
  .object ([("numbers", toJson (p.items.map (·.number))),
    ("outstanding", toJson (p.items.map (·.outstanding))), ("page", toJson p.page),
    ("per_page", toJson p.perPage), ("total", toJson p.total)] ++ p.place)

instance : Reported SweepOutcome where
  report
    | .generated i => .object [("generated", report i)]
    | .skipped => .string "skipped"
    | .failed e => .object [("failed", report e)]

/-- A scheduled run with its outcomes counted. -/
instance : Reported ScheduledRun where
  report r := .object
    [("frequency", toJson r.frequency), ("period", toJson r.period),
      ("outcomes", .array (r.outcomes.map fun (a, o) =>
        .object [("account", toJson a), ("outcome", report o)])),
      ("cancelled", toJson r.cancelled), ("generated", toJson r.invoices.length),
      ("skipped", toJson r.skippedCount), ("failed", toJson r.failures.length)]

instance : Reported SweepSummary :=
  ⟨fun s => (toJson s).extend [("complete", toJson s.isComplete)]⟩

/-- The amount without trailing zeros. -/
def Money.normalized (m : Money) : Money := .ofDecimal m.amount.normalize

/-- Totals without trailing zeros. -/
def AccountTotals.normalized (t : AccountTotals) : AccountTotals :=
  { t with debits := t.debits.normalized, credits := t.credits.normalized }

/-- A trial balance without trailing zeros. -/
def TrialBalance.normalized (t : TrialBalance) : TrialBalance :=
  { lines := t.lines.map (·.normalized), totalDebits := t.totalDebits.normalized
    totalCredits := t.totalCredits.normalized }

/-- A statement with balances without trailing zeros. -/
def Statement.normalized (s : Statement) : Statement :=
  { s with
    opening := s.opening.normalized, closing := s.closing.normalized
    lines := { s.lines with
      items := s.lines.items.map fun l => { l with running := l.running.normalized } } }

instance : Reported Statement := ⟨fun s => (toJson s).extend s.lines.place⟩

/-- A trial balance with the net of each ledger account. -/
def TrialBalance.report (t : TrialBalance) : Except RangeFault Json := do
  return (toJson t).extend
    [("balanced", toJson t.isBalanced), ("nets", toJson ((← t.nets).map (·.normalized)))]

/-- The row of an invoice with the rows of its lines. -/
def Invoice.rowsReport (i : Invoice) : Json :=
  (toJson (InvoiceRow.ofInvoice i)).extend [("lines", toJson (i.lines.map LineRow.ofLine))]

/-- The settings of a job, the derived ones too. -/
def JobSettings.report (s : JobSettings) : Json := .object
  [("database_url", toJson s.pool.url), ("max_connections", toJson s.pool.maxConnections),
    ("min_connections", toJson s.pool.minConnections),
    ("acquire_timeout_secs", toJson s.pool.acquireTimeoutSeconds),
    ("log_level", toJson s.logLevel), ("log_format", toJson s.logFormat),
    ("payment_terms_days", toJson s.paymentTermsDays),
    ("policy_terms", toJson s.policy.paymentTermsDays), ("pool", toJson s.pool)]

end RideLedger
