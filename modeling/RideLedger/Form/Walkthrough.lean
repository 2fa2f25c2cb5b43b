import RideLedger.Form.Request
import RideLedger.Rehearsal.Walkthrough

/-!
# Forms of walkthroughs
-/

namespace RideLedger

open Form

/-- A step by its name; nothing if no step has it. -/
def WalkStep.form? : Form (Option WalkStep) := do
  let account := natural "account"
  let day (name : String) : Form Nat := do return (← word32 name).toNat
  match ← text "do" with
  | "open" => return some (.openAccount (← NewAccount.form))
  | "march" => return some (.march (← day "day"))
  | "charge" => return some (.charge (← account) (← text "ride") (← money "amount"))
  | "pay" => return some (.pay (← account) (← text "payment") (← money "amount"))
  | "balance" => return some (.balance (← account))
  | "trial" => return some .trial
  | "statement" =>
    return some (.statement (← account) (← day "from") (← day "to") (← pageForm))
  | "generate" =>
    let place ← account
    let whole ← flag "month"
    return some (.generate place (if whole then Sample.wholeMarch else Sample.firstWeekOfMarch))
  | "no_double_billing" =>
    let places ← requiredBy
      (fun | .array js => js.mapM (Json.natBelow? (2 ^ 64)) | _ => none) "invoices"
    return some (.billedOnce places)
  | "as" => return some (.act (Sample.contextOf (← flag "other") (← actorForm)))
  | _ => return none

end RideLedger
