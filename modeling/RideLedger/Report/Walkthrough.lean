import RideLedger.Form.Walkthrough
import RideLedger.Report.Sample
import RideLedger.Report.Value

/-!
# Reports of audits and walkthroughs

What clients are shown of audits and of the answers of walkthrough steps. The
sums a walkthrough looks at are shown without trailing zeros.
-/

namespace RideLedger

instance : Reported Finding :=
  ⟨fun f => .object [("error", toJson "Assertion"), ("message", toJson f.message)]⟩

/-- A passed audit, or its finding. -/
def Audit.report : Audit → Json
  | .ok () => toJson "holds"
  | .error f => RideLedger.report f

instance : Reported Breakdown :=
  ⟨fun b => .object [("error", toJson "Panic"), ("message", toJson b.message)]⟩

instance : Reported WalkError where
  report
    | .billing e => report e
    | .finding f => report f

/-- The sides of a transaction and its key. -/
def LedgerTransaction.sides (t : LedgerTransaction) : List (String × Json) :=
  let side (e : LedgerEntry) : Json := .array [toJson e.ledgerAccount, toJson e.amount]
  [("credit", side t.credit), ("debit", side t.debit), ("key", toJson t.key.toText)]

/-- The number of a charge's own invoice. -/
def RecordedCharge.number? (r : RecordedCharge) : Option InvoiceNumber :=
  match r.perRide with
  | some (.ok i) => some i.number
  | _ => none

instance : Reported WalkAnswer where
  report
    | .account a => report a
    | .clock t => toJson t
    | .charged r => .object (r.transaction.sides ++ [("invoice", toJson r.number?)])
    | .paid t => .object t.sides
    | .balance m => toJson m.normalized
    | .trial balanced nets => .object
      [("balanced", balanced.report), ("nets", toJson (nets.map (·.normalized)))]
    | .statement s => .object
      [("closing", toJson s.closing.normalized), ("lines", toJson s.lines.items.length),
        ("reconciles", (Audit.statement s).report)]
    | .invoice i => (report i).withField "line_items" (toJson i.lines.length) |>.extend
      [("billing_period", toJson i.period), ("consistent", (Audit.invoice i).report)]
    | .passed => toJson "holds"
    | .context c => report c

/-- Takes a step that is written down, and answers. -/
def Walk.answer (j : Json) : StateT Walkthrough (Except Breakdown) Json := do
  match WalkStep.form? j with
  | .error e => return report e
  | .ok none => return .object [("error", toJson "UnknownStep")]
  | .ok (some step) =>
    match ← step.take.run with
    | .ok a => return .object [("ok", report a)]
    | .error e => return report e

/-- The answers to the steps of a walkthrough, and its end. -/
def Walkthrough.answers (store : Store) (steps : List Json) :
    Except Breakdown (List Json × Walkthrough) :=
  (steps.mapM Walk.answer).run (.start store)

end RideLedger
