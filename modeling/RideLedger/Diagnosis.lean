import RideLedger.Database.Error
import RideLedger.Text.Quoted

/-!
# Diagnoses

An error that nobody was prepared for is shown by its name and its parts
instead of its wording, with texts in quotes.
-/

namespace RideLedger

/-- A name with its parts. -/
def recordText (name : String) (parts : List (String × String)) : String :=
  name ++ " \x7b " ++ ", ".intercalate (parts.map fun (part, value) => part ++ ": " ++ value)
    ++ " \x7d"

/-- A name with its only part. -/
def wrappedText (name part : String) : String := name ++ "(" ++ part ++ ")"

/-- A part that may be missing. -/
def optionalText : Option String → String
  | none => "None"
  | some part => wrappedText "Some" part

/-- The parts of an amount error. -/
def MoneyError.diagnosis : MoneyError → String
  | .invalidAmount text => wrappedText "InvalidAmount" (shown text)
  | .divisionByZero => "DivisionByZero"
  | .overflow => "Overflow"

/-- The database error that an internal fault reports, in its words; only
errors without a fault of their own become internal ones. -/
def internalCause? (text : String) : Option String :=
  [DatabaseError.queryFailed, .migrationFailed, .corruptRow].findSome? fun error =>
    let mark := (error "").message.toList
    if mark.isPrefixOf text.toList then
      some (wrappedText (error "").label (shown (String.ofList (text.toList.drop mark.length))))
    else none

/-- The parts of a store fault. -/
def StoreFault.diagnosis (fault : StoreFault) : String :=
  match fault with
  | .notFound entity id | .immutable entity id | .inactive entity id =>
    recordText fault.label [("entity_type", shown entity), ("id", shown id)]
  | .validation text field =>
    recordText fault.label [("message", shown text), ("field", optionalText (field.map shown))]
  | .conflict text | .unauthorized text => recordText fault.label [("message", shown text)]
  | .cancelled => fault.label
  | .connection text =>
    recordText fault.label [("message", shown text), ("source", optionalText none)]
  | .timeout operation millis =>
    recordText fault.label [("operation", shown operation), ("duration_ms", Nat.repr millis)]
  | .internal text => recordText fault.label
    [("message", shown text), ("source", optionalText (internalCause? text))]

/-- The parts of an account identifier. -/
def accountText (account : AccountId) : String := wrappedText "AccountId" account.uuid.toText

/-- The parts of a billing error. -/
def BillingError.diagnosis (e : BillingError) : String :=
  match e with
  | .validation reason => wrappedText e.label (shown reason.message)
  | .unbalanced debits credits =>
    recordText e.label [("debits", debits.toText), ("credits", credits.toText)]
  | .accountInactive account => wrappedText e.label (accountText account)
  | .noUnbilledCharges account start finish => recordText e.label
    [("account_id", accountText account), ("start", start.toText), ("end", finish.toText)]
  | .notFound entity id => recordText e.label [("entity", shown entity), ("id", shown id)]
  | .duplicateTransaction account source reference => recordText e.label
    [("account_id", accountText account), ("source_type", Choice.name source),
      ("source_reference_id", shown reference)]
  | .conflict text | .immutable text | .unauthorized text | .failure text =>
    wrappedText e.label (shown text)
  | .cancelled => e.label
  | .calculation error => wrappedText e.label error.diagnosis
  | .storage fault => wrappedText e.label fault.diagnosis

end RideLedger
