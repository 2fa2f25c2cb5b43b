import RideLedger.Database.Row
import RideLedger.Form.Basic

/-!
# Forms of rows

Rows of the relational database as they are given from outside.
-/

namespace RideLedger

open Form

def AccountRow.form : Form AccountRow := do
  return { accountId := ← uuid "id", tenantId := ← uuid "tenant_id", name := ← text "name"
           accountType := ← choice AccountType "account type" "account_type"
           status := ← choice AccountStatus "account status" "status"
           frequency := ← Form.frequency "invoice_frequency", createdAt := ← instant "created_at"
           createdBy := ← text "created_by", modifiedAt := ← optInstant "modified_at"
           modifiedBy := ← optText "modified_by" }

def EntryRow.form : Form EntryRow := do
  return { entryId := ← uuid "entry_id", tenantId := ← uuid "tenant_id"
           accountId := ← uuid "account_id", ledgerAccount := ← Form.ledgerAccount
           debitAmount := ← decimal "debit_amount", creditAmount := ← decimal "credit_amount"
           sourceType := ← Form.sourceType, reference := ← text "source_reference_id"
           description := ← optText "description", createdAt := ← instant "created_at"
           createdBy := ← text "created_by" }

def LineRow.form : Form LineRow := do
  return { lineId := ← uuid "line_item_id", invoiceId := ← uuid "invoice_id"
           tenantId := ← uuid "tenant_id", entryId := ← uuid "ledger_entry_id"
           reference := ← text "source_reference_id", serviceDate := ← date "service_date"
           amount := ← decimal "amount", description := ← text "description" }

def InvoiceRow.form : Form InvoiceRow := do
  return { invoiceId := ← uuid "invoice_id", tenantId := ← uuid "tenant_id"
           number := ← text "invoice_number", accountId := ← uuid "account_id"
           periodStart := ← date "billing_period_start", periodEnd := ← date "billing_period_end"
           issueDate := ← date "issue_date", dueDate := ← date "due_date"
           subtotal := ← decimal "subtotal", paymentsApplied := ← decimal "payments_applied"
           outstanding := ← decimal "outstanding_balance"
           generatedAt := ← instant "generated_at", generatedBy := ← text "generated_by" }

/-- An invoice and its lines, which are read first. -/
def InvoiceRow.formWithLines : Form (InvoiceRow × List LineRow) := do
  let lines ← (← items "lines").mapM fun j => within j LineRow.form
  return (← InvoiceRow.form, lines)

def EventRow.form : Form EventRow := do
  return { eventId := ← uuid "event_id", tenantId := ← uuid "tenant_id"
           eventType := ← text "event_type", aggregate := ← text "aggregate_id"
           payload := ((← read).field? "payload").getD .null
           occurredAt := ← instant "occurred_at", dispatchedAt := ← optInstant "dispatched_at" }

/-- Totals of one ledger account. -/
def AccountTotals.form : Form AccountTotals := do
  return { account := ← ledgerAccount, debits := ← money "debits", credits := ← money "credits" }

end RideLedger
