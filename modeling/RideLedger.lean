import RideLedger.Account
import RideLedger.Audit
import RideLedger.BillingError
import RideLedger.Binary64.Basic
import RideLedger.Binary64.Shortest
import RideLedger.Binary64.Text
import RideLedger.Calendar.Date
import RideLedger.Calendar.Instant
import RideLedger.Calendar.Period
import RideLedger.Calendar.Text
import RideLedger.Chart
import RideLedger.Choice
import RideLedger.Command.Basic
import RideLedger.Command.Run
import RideLedger.Context
import RideLedger.Database
import RideLedger.Database.Column
import RideLedger.Database.Error
import RideLedger.Database.Row
import RideLedger.Database.Schema
import RideLedger.Database.Tables
import RideLedger.Database.Transaction
import RideLedger.Decimal.Basic
import RideLedger.Decimal.Text
import RideLedger.Diagnosis
import RideLedger.Engine
import RideLedger.Entry
import RideLedger.Event
import RideLedger.Fault
import RideLedger.Form.Basic
import RideLedger.Form.Error
import RideLedger.Form.Record
import RideLedger.Form.Request
import RideLedger.Form.Walkthrough
import RideLedger.Frequency
import RideLedger.Identifier
import RideLedger.Invoice
import RideLedger.InvoiceNumber
import RideLedger.Job.Runner
import RideLedger.Job.Settings
import RideLedger.Json.Basic
import RideLedger.Json.Layout
import RideLedger.Json.Parser
import RideLedger.Json.Printer
import RideLedger.Main
import RideLedger.MemoryStore
import RideLedger.Money
import RideLedger.Page
import RideLedger.Plan
import RideLedger.Proofs.Acceptance
import RideLedger.Proofs.AccountChanges
import RideLedger.Proofs.AccountNames
import RideLedger.Proofs.Alone
import RideLedger.Proofs.Amounts
import RideLedger.Proofs.AnyOrder
import RideLedger.Proofs.Appending
import RideLedger.Proofs.Billing
import RideLedger.Proofs.Bookkeeping
import RideLedger.Proofs.Cancellation
import RideLedger.Proofs.Charges
import RideLedger.Proofs.Civil
import RideLedger.Proofs.CommitLog
import RideLedger.Proofs.Construction
import RideLedger.Proofs.Contest
import RideLedger.Proofs.Days
import RideLedger.Proofs.Digits
import RideLedger.Proofs.Discipline
import RideLedger.Proofs.Dispatch
import RideLedger.Proofs.Displayed
import RideLedger.Proofs.Documents
import RideLedger.Proofs.Drafting
import RideLedger.Proofs.EventLines
import RideLedger.Proofs.ExactlyOnce
import RideLedger.Proofs.FastPath
import RideLedger.Proofs.Filing
import RideLedger.Proofs.Fitting
import RideLedger.Proofs.FollowUp
import RideLedger.Proofs.Framing
import RideLedger.Proofs.Gapless
import RideLedger.Proofs.History
import RideLedger.Proofs.Interleaving
import RideLedger.Proofs.Isolation
import RideLedger.Proofs.Journal
import RideLedger.Proofs.LastStep
import RideLedger.Proofs.Listing
import RideLedger.Proofs.Lookup
import RideLedger.Proofs.Months
import RideLedger.Proofs.Nearest
import RideLedger.Proofs.NumberForms
import RideLedger.Proofs.NumberOrder
import RideLedger.Proofs.Numbering
import RideLedger.Proofs.OnDemand
import RideLedger.Proofs.OneInvoice
import RideLedger.Proofs.Operations
import RideLedger.Proofs.Pages
import RideLedger.Proofs.PerRide
import RideLedger.Proofs.Posting
import RideLedger.Proofs.Precision
import RideLedger.Proofs.Projection
import RideLedger.Proofs.Ranges
import RideLedger.Proofs.Reconciliation
import RideLedger.Proofs.Recording
import RideLedger.Proofs.ReferenceLimits
import RideLedger.Proofs.Requests
import RideLedger.Proofs.Results
import RideLedger.Proofs.Retrying
import RideLedger.Proofs.Rows
import RideLedger.Proofs.Schedule
import RideLedger.Proofs.Scope
import RideLedger.Proofs.Selection
import RideLedger.Proofs.Shown
import RideLedger.Proofs.Spellings
import RideLedger.Proofs.Statements
import RideLedger.Proofs.Storing
import RideLedger.Proofs.Sweep
import RideLedger.Proofs.TenantView
import RideLedger.Proofs.Tracing
import RideLedger.Proofs.Transcript
import RideLedger.Proofs.TrialBalance
import RideLedger.Proofs.Uuids
import RideLedger.Proofs.Values
import RideLedger.Proofs.Writes
import RideLedger.Proofs.Written
import RideLedger.Rehearsal
import RideLedger.Rehearsal.Labels
import RideLedger.Rehearsal.Sample
import RideLedger.Rehearsal.Walkthrough
import RideLedger.Report.Command
import RideLedger.Report.Document
import RideLedger.Report.Error
import RideLedger.Report.Sample
import RideLedger.Report.Store
import RideLedger.Report.Value
import RideLedger.Report.Walkthrough
import RideLedger.Rounding
import RideLedger.Service.Accounts
import RideLedger.Service.Invoices
import RideLedger.Service.Ledger
import RideLedger.Service.Request
import RideLedger.Statement
import RideLedger.Store
import RideLedger.StoreFault
import RideLedger.StoreRequest
import RideLedger.Supply
import RideLedger.Text.Blank
import RideLedger.Text.Quoted
import RideLedger.Text.Visible
import RideLedger.Transaction
import RideLedger.WriteOnce
