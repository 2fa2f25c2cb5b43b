import RideLedger.Command.Run
import RideLedger.Json.Parser
import RideLedger.Report.Error

/-!
# Reports of commands

What clients are shown of a command's end: its code and what was written. The
months of invoice numbers are left out, since they tell the day the command
ran.
-/

namespace RideLedger

/-- The number of an invoice without its month. -/
def monthless (number : String) : String :=
  match InvoiceNumber.splitAt '-' number.toList with
  | [mark, _, sequence] => String.ofList (mark ++ "-<month>-".toList ++ sequence)
  | _ => number

/-- A summary without months. -/
def SweepSummary.monthless (s : SweepSummary) : SweepSummary :=
  { s with invoices := s.invoices.map RideLedger.monthless }

namespace CommandEnd

/-- The documents among the written lines. -/
def documents : CommandEnd → List Json
  | .wrote lines => lines.filterMap Json.ofText?
  | _ => []

instance : Reported CommandEnd where
  report e :=
    let told := match e with
      | .refused => []
      | .told text => [("text", toJson text)]
      | .wrote _ => [("lines", toJson e.documents)]
      | .swept s => [("summary", toJson s.monthless)]
      | .failed (.incomplete s) =>
        [("failure", toJson (CommandFailure.incomplete s).message),
          ("summary", toJson s.monthless)]
      | .failed failure => [("failure", toJson failure.message)]
    .object (("code", toJson e.code) :: told)

end CommandEnd

end RideLedger
