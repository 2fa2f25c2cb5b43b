import RideLedger.Entry
import RideLedger.InvoiceNumber

/-!
# Invoices

An invoice bills a closed set of ride charges of one account and period, one
line per charge. It is assembled as a draft, gets its number when it is stored,
and never changes afterwards.
-/

namespace RideLedger

/-- One billed charge. -/
structure InvoiceLine where
  id : InvoiceLineId
  invoice : InvoiceId
  tenant : TenantId
  entry : EntryId
  reference : String
  serviceDate : Date
  amount : Money
  description : String
deriving DecidableEq

namespace InvoiceLine

/-- The line for a charge. -/
def ofCharge (id : InvoiceLineId) (invoice : InvoiceId) (charge : LedgerEntry) : InvoiceLine :=
  { id := id, invoice := invoice, tenant := charge.tenant, entry := charge.id
    reference := charge.reference, serviceDate := charge.serviceDate
    amount := charge.debitAmount
    description :=
      match charge.description with
      | some d => d ++ " (" ++ charge.reference ++ ")"
      | none => "Ride " ++ charge.reference }

/-- A stored line with its amount checked again. -/
def rehydrate (record : InvoiceLine) : Except BillingError InvoiceLine :=
  if record.amount.isPositive then .ok record
  else .error (.validation (.lineNotPositive record.id))

/-- Orders lines by service date, then by entry. -/
def dateLe (a b : InvoiceLine) : Bool :=
  (compare a.serviceDate b.serviceDate).then (compare a.entry b.entry) != .gt

end InvoiceLine

/-- An invoice without a number. -/
structure InvoiceDraft where
  id : InvoiceId
  tenant : TenantId
  account : AccountId
  period : BillingPeriod
  issueDate : Date
  dueDate : Date
  subtotal : Money
  paymentsApplied : Money
  lines : List InvoiceLine
  generatedAt : Instant
  generatedBy : String
deriving DecidableEq

/-- An invoice. -/
structure Invoice where
  id : InvoiceId
  number : InvoiceNumber
  tenant : TenantId
  account : AccountId
  period : BillingPeriod
  issueDate : Date
  dueDate : Date
  subtotal : Money
  paymentsApplied : Money
  outstanding : Money
  lines : List InvoiceLine
  generatedAt : Instant
  generatedBy : String
deriving DecidableEq

/-- What a draft is assembled from. -/
structure DraftRequest where
  tenant : TenantId
  account : AccountId
  period : BillingPeriod
  issueDate : Date
  paymentTermsDays : Nat
  charges : List LedgerEntry
  payments : List LedgerEntry
  generatedAt : Instant
  generatedBy : String

/-- The identifiers of a draft and its lines. -/
structure DraftIds where
  invoice : InvoiceId
  /-- The line of the charge with a given place in the request. -/
  line : Nat → InvoiceLineId

namespace InvoiceDraft

/-- The rule that a charge breaks, if any; `seen` holds the charges before
it. -/
def chargeFault? (request : DraftRequest) (seen : List EntryId) (charge : LedgerEntry) :
    Option Refusal :=
  if charge.tenant ≠ request.tenant ∨ charge.account ≠ request.account then
    some (.foreignEntry charge.id request.account)
  else if !charge.isBillable then some (.notBillable charge.id)
  else if !request.period.contains charge.createdAt then some (.outsidePeriod charge.id)
  else if charge.id ∈ seen then some (.listedTwice charge.id)
  else none

/-- The first rule that one of the charges breaks. -/
def firstFault? (request : DraftRequest) (seen : List EntryId) : List LedgerEntry → Option Refusal
  | [] => none
  | charge :: rest =>
    match chargeFault? request seen charge with
    | some r => some r
    | none => firstFault? request (charge.id :: seen) rest

/-- Whether a payment of the request counts. -/
def counts (request : DraftRequest) (p : LedgerEntry) : Bool :=
  p.account = request.account && p.isPaymentCredit && request.period.contains p.createdAt

/-- One line per charge, by date and entry. -/
def linesOf (ids : DraftIds) (charges : List LedgerEntry) : List InvoiceLine :=
  (charges.mapIdx fun i c => .ofCharge (ids.line i) ids.invoice c).mergeSort InvoiceLine.dateLe

/-- Assembles a draft from charges, each checked in turn. -/
def assemble (ids : DraftIds) (request : DraftRequest) : Outcome InvoiceDraft := do
  if request.charges = [] then
    throw (.noUnbilledCharges request.account request.period.start request.period.finish)
  if let some r := firstFault? request [] request.charges then Outcome.refuse r
  let lines := linesOf ids request.charges
  let subtotal ← Money.sum (lines.map (·.amount))
  let paymentsApplied ← Money.sum ((request.payments.filter (counts request)).map (·.creditAmount))
  match request.issueDate.addDays? request.paymentTermsDays with
  | none => Outcome.refuse .dueDateOutOfRange
  | some dueDate =>
    return { id := ids.invoice, tenant := request.tenant, account := request.account
             period := request.period, issueDate := request.issueDate, dueDate := dueDate
             subtotal := subtotal, paymentsApplied := paymentsApplied, lines := lines
             generatedAt := request.generatedAt, generatedBy := request.generatedBy }

/-- The billed entries, in order of the lines. -/
def entryIds (d : InvoiceDraft) : List EntryId := d.lines.map (·.entry)

/-- The invoice with a number; the payments come off the subtotal. -/
def toInvoice (d : InvoiceDraft) (number : InvoiceNumber) : Except RangeFault Invoice := do
  return { id := d.id, number := number, tenant := d.tenant, account := d.account
           period := d.period, issueDate := d.issueDate, dueDate := d.dueDate
           subtotal := d.subtotal, paymentsApplied := d.paymentsApplied
           outstanding := ← d.subtotal.sub d.paymentsApplied
           lines := d.lines, generatedAt := d.generatedAt, generatedBy := d.generatedBy }

end InvoiceDraft

namespace Invoice

/-- A stored invoice with its period, sums and lines checked again. -/
def rehydrate (record : Invoice) : Outcome Invoice := do
  let period ← Outcome.ofTemporal (BillingPeriod.new record.period.start record.period.finish)
  let total ← Money.sum (record.lines.map (·.amount))
  if !total.sameValue record.subtotal then
    Outcome.refuse (.subtotalDiffers record.number.text record.subtotal total)
  let rest ← record.subtotal.sub record.paymentsApplied
  if !rest.sameValue record.outstanding then
    Outcome.refuse (.outstandingDiffers record.number.text)
  if record.lines.any (·.invoice ≠ record.id) then
    Outcome.refuse (.foreignLines record.number.text)
  return { record with period := period }

/-- Orders invoices from the newest, by time and then by number. -/
def newestLe (a b : Invoice) : Bool :=
  (compare b.generatedAt a.generatedAt).then (compare b.number a.number) != .gt

end Invoice

instance : ToJson InvoiceLine where
  toJson l := .object
    [("id", toJson l.id), ("invoice_id", toJson l.invoice), ("tenant_id", toJson l.tenant),
      ("ledger_entry_id", toJson l.entry), ("source_reference_id", toJson l.reference),
      ("service_date", toJson l.serviceDate), ("amount", toJson l.amount),
      ("description", toJson l.description)]

instance : ToJson Invoice where
  toJson i := .object
    [("id", toJson i.id), ("invoice_number", toJson i.number), ("tenant_id", toJson i.tenant),
      ("account_id", toJson i.account), ("period", toJson i.period),
      ("issue_date", toJson i.issueDate), ("due_date", toJson i.dueDate),
      ("subtotal", toJson i.subtotal), ("payments_applied", toJson i.paymentsApplied),
      ("outstanding_balance", toJson i.outstanding), ("line_items", toJson i.lines),
      ("generated_at", toJson i.generatedAt), ("generated_by", toJson i.generatedBy)]

end RideLedger
