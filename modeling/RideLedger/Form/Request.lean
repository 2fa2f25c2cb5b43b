import RideLedger.Form.Basic
import RideLedger.Rehearsal.Sample

/-!
# Forms of requests

Requests of which a script gives only what matters to it; the rest is sample
data.
-/

namespace RideLedger

open Form

/-- An amount; a fare if it is absent. -/
def fareForm : Form Money := do
  match ← field? "amount" with
  | none => return Sample.rideFare
  | some _ => money "amount"

def NewAccount.form : Form NewAccount := do
  let name := (← optText "name").getD Sample.accountName
  let individual ← flag "individual"
  let frequency ← match ← field? "frequency" with
    | none => pure InvoiceFrequency.monthly
    | some _ => Form.frequency "frequency"
  return { name := name, accountType := if individual then .individual else .organization
           frequency := frequency }

def RideChargeRequest.form : Form RideChargeRequest := do
  return { account := ⟨← uuid "account"⟩, ride := (← optText "ride").getD (Sample.ride 1)
           amount := ← fareForm, description := ← optText "description" }

def PaymentRequest.form : Form PaymentRequest := do
  return { account := ⟨← uuid "account"⟩
           payment := (← optText "payment").getD (Sample.payment 1)
           amount := ← fareForm, description := none }

/-- The actor of a context; somebody from outside if it is absent. -/
def actorForm : Form String := do return (← optText "actor").getD "intruder"

end RideLedger
