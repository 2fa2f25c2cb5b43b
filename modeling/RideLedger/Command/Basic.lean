import RideLedger.Calendar.Text
import RideLedger.Frequency
import RideLedger.Identifier

/-!
# The command line

The program `billing-jobs` runs one batch job. Its first word names the job,
and options follow it, each a name and a value in the next word or behind an
equals sign. Words are taken from the left: the first one that is wrong ends
the reading, and so does the first one that asks for help.
-/

namespace RideLedger

/-- A job and its options. -/
inductive Command
  | migrate
  | scheduled (frequency : InvoiceFrequency) (tenant : Uuid) (asOf : Option Instant)
  | dispatchOutbox (tenant : Uuid) (limit : UInt32)

/-- What a command line asks for. -/
inductive CommandLine
  /-- To run a job. -/
  | run (command : Command)
  /-- To be told something. -/
  | tell (text : String)
  /-- It makes no sense. -/
  | refused

namespace Command

/-- The name and the version of the program. -/
def version : String := "billing-jobs 0.1.0"

/-- What the program is. -/
def about : String := "Batch jobs for the ride billing engine"

/-- The jobs by name. -/
inductive JobName
  | migrate
  | scheduled
  | dispatchOutbox
deriving DecidableEq

/-- The words of the jobs. -/
def jobNames : List (String × JobName) :=
  [("migrate", .migrate), ("scheduled", .scheduled), ("dispatch-outbox", .dispatchOutbox)]

/-- What a job does. -/
def JobName.about : JobName → String
  | .migrate => "Apply pending database migrations"
  | .scheduled => "Generate invoices for every account on a schedule"
  | .dispatchOutbox => "Write pending outbox events to stdout and mark them dispatched"

/-- What the help does. -/
def helpAbout : String := "Print this message or the help of the given subcommand(s)"

/-- The options given so far. -/
structure Options where
  frequency : Option InvoiceFrequency
  tenant : Option Uuid
  asOf : Option Instant
  limit : Option UInt32

namespace Options

def none : Options := { frequency := .none, tenant := .none, asOf := .none, limit := .none }

/-- The frequencies that a schedule can have. -/
def schedules : List (String × InvoiceFrequency) :=
  [("daily", .daily), ("weekly", .weekly), ("monthly", .monthly)]

/-- A whole number of 32 bits; a plus sign may stand in front of it. -/
def word32? (s : String) : Option UInt32 := do
  let digits := match s.toList with
    | '+' :: rest => rest
    | cs => cs
  let n ← Decimal.natOfDigits? digits
  if n < 2 ^ 32 then some (UInt32.ofNat n) else .none

/-- A value in a place that has none yet. -/
def fill {α : Type} (old new : Option α) : Option α := if old.isSome then .none else new

/-- Takes an option of a job. It has to be one of the job, given once and with
a proper value. -/
def take? (job : JobName) (name value : String) (o : Options) : Option Options :=
  match job, name with
  | .scheduled, "frequency" => do
    some { o with frequency := some (← fill o.frequency (schedules.lookup value)) }
  | .scheduled, "as-of" => do
    some { o with asOf := some (← fill o.asOf (Instant.ofText? value)) }
  | .dispatchOutbox, "limit" => do
    some { o with limit := some (← fill o.limit (word32? value)) }
  | .scheduled, "tenant" | .dispatchOutbox, "tenant" => do
    some { o with tenant := some (← fill o.tenant (Uuid.ofText? value)) }
  | _, _ => .none

end Options

/-- Whether a word stands for an option and not for a value. -/
def isFlag (word : String) : Bool := word.startsWith "-" && word != "-"

/-- Whether a word asks for help: the long name, or the letter in front of
others. -/
def asksHelp (word : String) : Bool := word == "--help" || word.startsWith "-h"

/-- Whether a word asks for the version. -/
def asksVersion (word : String) : Bool := word == "--version" || word.startsWith "-V"

/-- The name of an option and, if an equals sign follows it, the value. -/
def splitOption (word : String) : String × Option String :=
  let cs := word.toList.drop 2
  let name := cs.takeWhile (· != '=')
  (String.ofList name, match cs.drop name.length with
    | [] => none
    | _ :: value => some (String.ofList value))

/-- The options of a job, or what the command line asks for instead. -/
def readOptions (job : JobName) (o : Options) : List String → Except CommandLine Options
  | [] | ["--"] => .ok o
  | word :: rest =>
    if asksHelp word then .error (.tell job.about)
    else if !word.startsWith "--" then .error .refused
    else match splitOption word, rest with
      | (name, some value), rest =>
        match o.take? job name value with
        | some o => readOptions job o rest
        | none => .error .refused
      | (name, none), value :: rest =>
        match if isFlag value then none else o.take? job name value with
        | some o => readOptions job o rest
        | none => .error .refused
      | (_, none), [] => .error .refused

/-- The number of events dispatched when nothing is said. -/
def defaultLimit : UInt32 := 100

/-- The command of a job with its options; some have to be given. -/
def ofOptions? : JobName → Options → Option Command
  | .migrate, _ => some .migrate
  | .scheduled, o => do some (.scheduled (← o.frequency) (← o.tenant) o.asOf)
  | .dispatchOutbox, o => do some (.dispatchOutbox (← o.tenant) (o.limit.getD defaultLimit))

/-- The help on a job, or on the program. -/
def help : List String → CommandLine
  | [] => .tell about
  | ["help"] => .tell helpAbout
  | [word] =>
    match jobNames.lookup word with
    | some job => .tell job.about
    | none => .refused
  | _ => .refused

/-- Reads the words of a command line. -/
def read : List String → CommandLine
  | [] => .refused
  | "help" :: rest => help rest
  | word :: rest =>
    if asksHelp word then .tell about
    else if asksVersion word then .tell version
    else match jobNames.lookup word with
      | none => .refused
      | some job =>
        match readOptions job .none rest with
        | .error asked => asked
        | .ok o =>
          match ofOptions? job o with
          | some command => .run command
          | none => .refused

end Command

end RideLedger
