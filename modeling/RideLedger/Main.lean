import RideLedger.Command.Run
import RideLedger.Json.Layout
import Std.Time.DateTime.Timestamp

/-!
# The program `billing-jobs`

Runs one command on a database that it keeps in memory and that begins without
tables, at the usual address. Results are written to the output and failures to
the error output.
-/

namespace RideLedger

namespace Program

/-- The current instant. -/
def currentInstant : IO Instant := do
  let now ← Std.Time.Timestamp.now
  return (Instant.ofNanos? now.toNanosecondsSinceUnixEpoch.val).getD default

/-- The variables of the settings that are set. -/
def settingVariables : IO (List (String × String)) :=
  JobSettings.names.filterMapM fun name => do
    let key := (settingMark ++ name).toUpper
    return (← IO.getEnv key).map (key, ·)

/-- Shows the end of a command. -/
def showEnd (e : CommandEnd) : IO Unit :=
  match e with
  | .refused => IO.eprintln "error: the command line makes no sense; try --help"
  | .told text => IO.println text
  | .wrote lines => lines.forM fun line => IO.println line
  | .swept s => IO.println (toJson s).renderLines
  | .failed (.incomplete s) => do
    IO.println (toJson s).renderLines
    IO.eprintln ("Error: " ++ (CommandFailure.incomplete s).message)
  | .failed failure => IO.eprintln ("Error: " ++ failure.message)

/-- Runs a command line, and gives its code. -/
def run (words : List String) : IO UInt32 := do
  let world : Command.World :=
    { now := ← currentInstant, supply := .start, cancelled := false, armed := []
      sink := .unlimited, store := { pool := .default, schema := .blank } }
  match Command.runLine words (← settingVariables) defaultDatabaseUrl world with
  | .error fault =>
    IO.eprintln ("Error: " ++ fault.message)
    return 1
  | .ok (e, _) =>
    showEnd e
    return UInt32.ofNat e.code

end Program

end RideLedger

/-- Runs the words behind the program's name. -/
def main (words : List String) : IO UInt32 := RideLedger.Program.run words
