import RideLedger.Command.Basic
import RideLedger.Database
import RideLedger.Job.Settings
import RideLedger.Rehearsal

/-!
# Running a command

A command reads its settings, connects to the database, and does its job as the
system. Each of these can fail, and the first failure ends it. Its end is a
code, 0 for success, with what was written.
-/

namespace RideLedger

/-- Why a command did not do its job. -/
inductive CommandFailure
  | settings
  | connection
  | migrations
  | nilTenant
  /-- Some accounts were not invoiced. -/
  | incomplete (summary : SweepSummary)
  | job (e : JobError)

/-- The wording of a failure. -/
def CommandFailure.message : CommandFailure → String
  | .settings => "invalid BILLING_* configuration"
  | .connection => "failed to connect to the billing database"
  | .migrations => "migrations failed"
  | .nilTenant => "--tenant must be a non-nil tenant id"
  | .incomplete s =>
    "sweep incomplete: " ++ Nat.repr s.failed.length ++ " failed, cancelled="
      ++ (if s.cancelled then "true" else "false")
  | .job e => e.message

/-- How a command ended. -/
inductive CommandEnd
  /-- The command line made no sense. -/
  | refused
  /-- Something was told. -/
  | told (text : String)
  /-- Lines were written. -/
  | wrote (lines : List String)
  /-- Every account was invoiced or had nothing to invoice. -/
  | swept (summary : SweepSummary)
  | failed (failure : CommandFailure)

/-- The code that a command ends with. -/
def CommandEnd.code : CommandEnd → Nat
  | .told _ | .wrote _ | .swept _ => 0
  | .failed _ => 1
  | .refused => 2

namespace Command

/-- A database with its surroundings. -/
abbrev World := Rehearsal Database

/-- The result of a command and the world after it. -/
abbrev Ending := Except RangeFault (CommandEnd × World)

/-- The world after a plan in it. -/
def carryOut {α : Type} (plan : Plan α) (w : World) : Except RangeFault (α × World) :=
  plan.run (Rehearsal.world Database.serve) w

/-- The context of a command. -/
def context? (tenant : Uuid) : Option RequestContext :=
  (RequestContext.resolve (some ⟨tenant⟩) none).toOption

/-- Does a job. -/
def run (policy : InvoicingPolicy) (w : World) : Command → Ending
  | .migrate =>
    let (result, d) := w.store.migrate
    let failed := match result with
      | .ok () => CommandEnd.wrote []
      | .error _ => .failed .migrations
    return (failed, { w with store := d })
  | .scheduled frequency tenant asOf => do
    let some ctx := context? tenant | return (.failed .nilTenant, w)
    let (result, w) ← carryOut (Job.runScheduled policy ctx frequency (asOf.getD w.now)).run w
    match result with
    | .error e => return (.failed (.job e), w)
    | .ok s => return (if s.isComplete then .swept s else .failed (.incomplete s), w)
  | .dispatchOutbox tenant limit => do
    let some ctx := context? tenant | return (.failed .nilTenant, w)
    let (result, w) ← carryOut (Job.drainOutbox ctx limit).run w
    match result with
    | .error e => return (.failed (.job e), w)
    | .ok _ => return (.wrote w.sink.lines, w)

/-- Runs a command line with environment variables, where the database is
found at an address. -/
def runLine (words : List String) (environment : List (String × String)) (address : String)
    (w : World) : Ending :=
  match read words with
  | .refused => .ok (.refused, w)
  | .tell text => .ok (.told text, w)
  | .run command =>
    match JobSettings.load? environment with
    | none => .ok (.failed .settings, w)
    | some settings =>
      if settings.pool.url ≠ address then .ok (.failed .connection, w)
      else run settings.policy w command

end Command

end RideLedger
