import RideLedger.Invoice
import RideLedger.Statement

/-!
# Audits

An audit looks at records that were made elsewhere. It passes, or it ends with
the first thing that is wrong with them. A sum that runs out of range while the
audit adds up is a finding as well.
-/

namespace RideLedger

/-- What is wrong. -/
inductive Finding
  | amountsDiffer (actual expected : Money)
  | partsDiffer (sum total : Money)
  | outOfBalance (debits credits : Money)
  | subtotalDiffers (number : InvoiceNumber) (subtotal lines : Money)
  | outstandingDiffers (number : InvoiceNumber)
  | dueBeforeIssue (number : InvoiceNumber)
  | noLines
  /-- An entry on a second line; the number is that of the line's invoice. -/
  | billedTwice (entry : EntryId) (number : InvoiceNumber)
  | notReconciled (opening movement closing : Money)
  | otherError (e : BillingError)
  /-- A result where an error of some kind was expected. -/
  | noError (kind : ErrorKind) (result : Int)
  | outOfRange (fault : RangeFault)
deriving DecidableEq

/-- The wording of a finding. -/
def Finding.message : Finding → String
  | .amountsDiffer actual expected =>
    "Money mismatch: actual=" ++ actual.display ++ ", expected=" ++ expected.display
  | .partsDiffer sum total => "Parts sum to " ++ sum.display ++ " but expected " ++ total.display
  | .outOfBalance debits credits =>
    "Ledger out of balance: debits=" ++ debits.display ++ ", credits=" ++ credits.display
  | .subtotalDiffers number subtotal lines =>
    "Invoice " ++ number.text ++ " subtotal " ++ subtotal.display ++ " does not match lines "
      ++ lines.display
  | .outstandingDiffers number =>
    "Invoice " ++ number.text ++ " outstanding balance is inconsistent"
  | .dueBeforeIssue number => "Invoice " ++ number.text ++ " is due before it is issued"
  | .noLines => "Invoice has no lines"
  | .billedTwice entry number =>
    "Ledger entry " ++ entry.toText ++ " billed more than once (again on " ++ number.text ++ ")"
  | .notReconciled opening movement closing =>
    "Statement does not reconcile: opening=" ++ opening.display ++ ", movement="
      ++ movement.display ++ ", closing=" ++ closing.display
  | .otherError e => "Unexpected error: " ++ e.message
  | .noError kind result =>
    "Expected " ++ kind.label ++ " error, got Ok(" ++ toString result ++ ")"
  | .outOfRange fault => fault.message

/-- The outcome of an audit. -/
abbrev Audit := Except Finding Unit

namespace Audit

/-- Passes if a rule is kept. -/
def keep (rule : Bool) (finding : Finding) : Audit :=
  if rule then .ok () else .error finding

/-- A result, with a fault as a finding. -/
def inRange {α : Type} : Except RangeFault α → Except Finding α
  | .ok a => .ok a
  | .error fault => .error (.outOfRange fault)

/-- Two amounts are equal. -/
def amounts (actual expected : Money) : Audit :=
  keep (actual.sameValue expected) (.amountsDiffer actual expected)

/-- Parts add up to a total. -/
def parts (all : List Money) (total : Money) : Audit := do
  let sum ← inRange (Money.sum all)
  keep (sum.sameValue total) (.partsDiffer sum total)

/-- Debits and credits are equal. -/
def balance (t : TrialBalance) : Audit :=
  keep t.isBalanced (.outOfBalance t.totalDebits t.totalCredits)

/-- The sums of an invoice are those of its lines, of which there is at least
one, and it is not due before it is issued. -/
def invoice (i : Invoice) : Audit := do
  let lines ← inRange (Money.sum (i.lines.map (·.amount)))
  keep (i.subtotal.sameValue lines) (.subtotalDiffers i.number i.subtotal lines)
  let rest ← inRange (i.subtotal.sub i.paymentsApplied)
  keep (i.outstanding.sameValue rest) (.outstandingDiffers i.number)
  keep (decide (i.issueDate ≤ i.dueDate)) (.dueBeforeIssue i.number)
  keep (!i.lines.isEmpty) .noLines

/-- No entry of the lines, each with the number of its invoice, is listed twice
or among those `seen`. -/
def distinctLines (seen : List EntryId) : List (EntryId × InvoiceNumber) → Audit
  | [] => .ok ()
  | (entry, number) :: rest => do
    keep (entry ∉ seen) (.billedTwice entry number)
    distinctLines (entry :: seen) rest

/-- No entry is billed by two lines. -/
def billedOnce (invoices : List Invoice) : Audit :=
  distinctLines [] (invoices.flatMap fun i => i.lines.map fun l => (l.entry, i.number))

/-- The closing balance is the opening one with the shown entries added. This
can hold only for a page that shows all of them. -/
def statement (s : Statement) : Audit := do
  let moves ← inRange (s.lines.items.mapM fun l => l.debit.sub l.credit)
  let movement ← inRange (Money.sum moves)
  let closing ← inRange (s.opening.add movement)
  keep (closing.sameValue s.closing) (.notReconciled s.opening movement s.closing)

/-- A result is an error of some kind. -/
def fails (kind : ErrorKind) : Except BillingError Int → Audit
  | .error e => keep (e.kind = kind) (.otherError e)
  | .ok result => .error (.noError kind result)

end Audit

end RideLedger
