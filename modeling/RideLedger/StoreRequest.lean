import RideLedger.Account
import RideLedger.Event
import RideLedger.Page
import RideLedger.Statement

/-!
# What a store is asked

Every operation names the tenant it runs for, through its context, and touches
nothing of other tenants. Entries and invoices are written once: there is no
operation that changes or removes one.
-/

namespace RideLedger

/-- A store operation. Writes that queue an event get its identifier. -/
inductive StoreRequest
  | insertAccount (ctx : RequestContext) (account : Account)
  | updateAccount (ctx : RequestContext) (account : Account)
  | findAccount (ctx : RequestContext) (account : AccountId)
  | listAccounts (ctx : RequestContext) (page : PageRequest)
  | accountsWithFrequency (ctx : RequestContext) (frequency : InvoiceFrequency)
  | appendTransaction (ctx : RequestContext) (t : LedgerTransaction) (event : EventId)
  | transactionExists (ctx : RequestContext) (key : TransactionKey)
  | receivableBalance (ctx : RequestContext) (account : AccountId) (before : Option Instant)
  | receivableEntries (ctx : RequestContext) (account : AccountId) (range : StatementRange)
  | ledgerTotals (ctx : RequestContext)
  | unbilledCharges (ctx : RequestContext) (account : AccountId) (period : BillingPeriod)
  | paymentsInPeriod (ctx : RequestContext) (account : AccountId) (period : BillingPeriod)
  | insertInvoice (ctx : RequestContext) (draft : InvoiceDraft) (event : EventId)
  | findInvoice (ctx : RequestContext) (invoice : InvoiceId)
  | findInvoiceByNumber (ctx : RequestContext) (number : InvoiceNumber)
  | listInvoices (ctx : RequestContext) (account : AccountId) (page : PageRequest)
  | pendingEvents (ctx : RequestContext) (limit : UInt32)
  | markDispatched (ctx : RequestContext) (event : EventId) (at_ : Instant)

namespace StoreRequest

/-- What the operation gives when it succeeds. -/
abbrev Reply : StoreRequest → Type
  | .insertAccount .. => Unit
  | .updateAccount .. => Unit
  | .findAccount .. => Option Account
  | .listAccounts .. => Page Account
  | .accountsWithFrequency .. => List Account
  | .appendTransaction .. => Unit
  | .transactionExists .. => Bool
  | .receivableBalance .. => Money
  | .receivableEntries .. => List LedgerEntry
  | .ledgerTotals .. => List AccountTotals
  | .unbilledCharges .. => List LedgerEntry
  | .paymentsInPeriod .. => List LedgerEntry
  | .insertInvoice .. => Invoice
  | .findInvoice .. => Option Invoice
  | .findInvoiceByNumber .. => Option Invoice
  | .listInvoices .. => Page Invoice
  | .pendingEvents .. => List OutboxEvent
  | .markDispatched .. => Unit

/-- The name of the operation. -/
def operation : StoreRequest → String
  | .insertAccount .. => "insert_account"
  | .updateAccount .. => "update_account"
  | .findAccount .. => "find_account"
  | .listAccounts .. => "list_accounts"
  | .accountsWithFrequency .. => "accounts_with_frequency"
  | .appendTransaction .. => "append_transaction"
  | .transactionExists .. => "transaction_exists"
  | .receivableBalance .. => "receivable_balance"
  | .receivableEntries .. => "receivable_entries"
  | .ledgerTotals .. => "ledger_totals"
  | .unbilledCharges .. => "unbilled_charges"
  | .paymentsInPeriod .. => "payments_in_period"
  | .insertInvoice .. => "insert_invoice"
  | .findInvoice .. => "find_invoice"
  | .findInvoiceByNumber .. => "find_invoice_by_number"
  | .listInvoices .. => "list_invoices"
  | .pendingEvents .. => "pending_events"
  | .markDispatched .. => "mark_dispatched"

/-- The answer of a store: a reply or a fault. -/
abbrev Answer (r : StoreRequest) : Type := Except StoreFault r.Reply

end StoreRequest

end RideLedger
