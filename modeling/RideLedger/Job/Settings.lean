import RideLedger.Binary64.Text
import RideLedger.Choice
import RideLedger.Service.Request

/-!
# Settings of the batch jobs

The jobs are set up by environment variables: a setting `max_connections` by
`BILLING_MAX_CONNECTIONS`, in any letter case. The text of a variable is taken
for a truth value, a whole number, a fraction or plain text, in this order, and
then fitted to the type of the setting; words are taken in any letter case.
Settings out of bounds are refused.

The name of a variable can go on behind that of a setting, to a field
(`BILLING_LOG_FORMAT.JSON`) or to an element of a list (`BILLING_LOG_LEVEL[0]`).
It then sets a part, and what stands at the setting is a group or a list.
-/

namespace RideLedger

/-- How log lines are written. -/
inductive LogFormat
  | pretty
  | json
deriving DecidableEq

instance : Choice LogFormat where
  values := [.pretty, .json]
  name
    | .pretty => "Pretty"
    | .json => "Json"
  word
    | .pretty => "pretty"
    | .json => "json"

/-- How connections to the database are kept. -/
structure PoolSettings where
  url : String
  minConnections : Nat
  maxConnections : Nat
  acquireTimeoutSeconds : Nat

/-- The address used when none is given. -/
def defaultDatabaseUrl : String := "postgres://localhost/ride_billing"

def PoolSettings.default : PoolSettings :=
  { url := defaultDatabaseUrl, minConnections := 1, maxConnections := 5
    acquireTimeoutSeconds := 30 }

/-- The settings of a job. -/
structure JobSettings where
  pool : PoolSettings
  logLevel : String
  logFormat : LogFormat
  paymentTermsDays : Nat

/-- The value of a variable. -/
inductive SettingValue
  | truth (b : Bool)
  | whole (n : Int)
  | fraction (x : FloatText)
  | text (s : String)

namespace SettingValue

/-- A whole number of 64 bits, with or without a sign. -/
def wholeOfText? (s : String) : Option Int := do
  let n : Int ← match s.toList with
    | '-' :: ds => (Decimal.natOfDigits? ds).map fun n => -(n : Int)
    | '+' :: ds => (Decimal.natOfDigits? ds).map Int.ofNat
    | ds => (Decimal.natOfDigits? ds).map Int.ofNat
  if -(2 ^ 63) ≤ n ∧ n < 2 ^ 63 then some n else none

/-- The value that a text stands for. -/
def ofText (s : String) : SettingValue :=
  if s.toLower = "true" then .truth true
  else if s.toLower = "false" then .truth false
  else match wholeOfText? s with
    | some n => .whole n
    | none => match FloatText.ofText? s with
      | some x => .fraction x
      | none => .text s

/-- The value as a text. -/
def toText : SettingValue → String
  | .truth b => if b then "true" else "false"
  | .whole n => toString n
  | .fraction x => x.toText
  | .text s => s

/-- A text as a whole number without sign: also a word for yes or no. -/
def wordOfText? (s : String) : Option Nat :=
  if s.toLower ∈ ["true", "on", "yes"] then some 1
  else if s.toLower ∈ ["false", "off", "no"] then some 0
  else match wholeOfText? s with
    | some n => if 0 ≤ n then some n.toNat else none
    | none => (Decimal.natOfDigits? s.toList).bind fun n => if n < 2 ^ 64 then some n else none

/-- The value as a whole number of 64 bits without sign. -/
def toWord? : SettingValue → Option Nat
  | .truth b => some (if b then 1 else 0)
  | .whole n => if 0 ≤ n then some n.toNat else none
  | .fraction x => some x.toWord
  | .text s => wordOfText? s

/-- The value as a whole number of 32 bits without sign. -/
def toHalfWord? (v : SettingValue) : Option Nat :=
  v.toWord?.bind fun n => if n < 2 ^ 32 then some n else none

end SettingValue

/-! ## Names of variables -/

/-- The letters in front of every variable. -/
def settingMark : String := "billing_"

/-- A step from a setting to a part of it. -/
inductive SettingStep
  | field (name : String)
  | element

/-- The name of a setting, and the steps from it to a part. -/
structure SettingPath where
  name : String
  steps : List SettingStep

namespace SettingPath

/-- Whether a character can stand in a name. -/
def inName (c : Char) : Bool := c.isAlphanum || c == '_' || c == '-' || c == ' '

/-- A name at the beginning of a text, and what follows it. -/
def scanName? (cs : List Char) : Option (String × List Char) :=
  match cs.takeWhile inName with
  | [] => none
  | name => some (String.ofList name, cs.dropWhile inName)

/-- The place of an element, with blanks around it and its closing bracket, and
what follows. -/
def scanPlace? (cs : List Char) : Option (List Char) := do
  let isGap (c : Char) : Bool := c == ' ' || c == '\t'
  let cs := cs.dropWhile isGap
  let (bound, cs) := match cs with
    | '-' :: cs => (2 ^ 63, cs)
    | cs => (2 ^ 63 - 1, cs)
  let n ← Decimal.natOfDigits? (cs.takeWhile Char.isDigit)
  match (cs.dropWhile Char.isDigit).dropWhile isGap with
  | ']' :: rest => if n ≤ bound then some rest else none
  | _ => none

/-- Reads steps. There are no more of them than characters. -/
def scanSteps? : (fuel : Nat) → List Char → Option (List SettingStep)
  | _, [] => some []
  | fuel + 1, '.' :: cs => do
    let (name, rest) ← scanName? cs
    some (.field name :: (← scanSteps? fuel rest))
  | fuel + 1, '[' :: cs => do some (.element :: (← scanSteps? fuel (← scanPlace? cs)))
  | _, _ => none

/-- Reads the name of a variable without its mark. -/
def ofText? (text : List Char) : Option SettingPath := do
  let (name, rest) ← scanName? text
  some { name := name, steps := ← scanSteps? rest.length rest }

/-- Reads the name of a variable. -/
def ofVariable? (key : String) : Option SettingPath :=
  let cs := key.toLower.toList
  if settingMark.toList.isPrefixOf cs then ofText? (cs.drop settingMark.length) else none

end SettingPath

/-- What stands at the name of a setting. -/
inductive Setting
  | value (v : SettingValue)
  /-- A group with fields of these names. -/
  | group (fields : List String)
  | list

namespace Setting

/-- What stands at a setting after something was put there or at a part of
it. -/
def put (s : Option Setting) (steps : List SettingStep) (v : SettingValue) : Setting :=
  match steps, s with
  | [], _ => .value v
  | .field name :: _, some (.group fields) => .group (fields.insert name)
  | .field name :: _, _ => .group [name]
  | .element :: _, _ => .list

/-- What the variables put at a setting, one after the other. -/
def of? (environment : List (String × String)) (name : String) : Option Setting :=
  environment.foldl (fun s (key, text) =>
    match SettingPath.ofVariable? key with
    | some path => if path.name = name then some (put s path.steps (.ofText text)) else s
    | none => s) none

/-- The value at a setting, if it is one. -/
def value? : Setting → Option SettingValue
  | .value v => some v
  | _ => none

/-- The word at a setting that is one of a few: a text, or the name of the only
field of a group. -/
def word? : Setting → Option String
  | .value (.text s) => some s
  | .group [name] => some name
  | _ => none

end Setting

/-! ## Settings -/

namespace JobSettings

/-- The names of the settings. -/
def names : List String :=
  ["database_url", "max_connections", "min_connections", "acquire_timeout_secs", "log_level",
    "log_format", "payment_terms_days"]

/-- Whether the settings are in bounds. -/
def valid (s : JobSettings) : Bool :=
  s.pool.url ≠ "" && 1 ≤ s.pool.maxConnections && s.pool.maxConnections ≤ 200
    && 1 ≤ s.pool.acquireTimeoutSeconds && s.paymentTermsDays ≤ 365
    && s.pool.minConnections ≤ s.pool.maxConnections

/-- Reads the settings from variables. -/
def load? (environment : List (String × String)) : Option JobSettings := do
  let read {α : Type} (name : String) (default : α) (fit : Setting → Option α) : Option α :=
    match Setting.of? environment name with
    | none => some default
    | some s => fit s
  let number (name : String) (default : Nat) (fit : SettingValue → Option Nat) : Option Nat :=
    read name default fun s => s.value?.bind fit
  let text (name default : String) : Option String :=
    read name default fun s => s.value?.map SettingValue.toText
  let settings : JobSettings :=
    { pool :=
        { url := ← text "database_url" defaultDatabaseUrl
          maxConnections := ← number "max_connections" 5 (·.toHalfWord?)
          minConnections := ← number "min_connections" 1 (·.toHalfWord?)
          acquireTimeoutSeconds := ← number "acquire_timeout_secs" 30 (·.toWord?) }
      logLevel := ← text "log_level" "info"
      logFormat :=
        ← read "log_format" LogFormat.pretty fun s => s.word?.bind fun w => Choice.ofWord? w.toLower
      paymentTermsDays :=
        ← number "payment_terms_days" InvoicingPolicy.default.paymentTermsDays.toNat
          (·.toHalfWord?) }
  if settings.valid then some settings else none

/-- The policy that the settings give. -/
def policy (s : JobSettings) : InvoicingPolicy :=
  { paymentTermsDays := UInt32.ofNat s.paymentTermsDays }

end JobSettings

instance : ToJson PoolSettings where
  toJson p := .object
    [("url", toJson p.url), ("min", toJson p.minConnections), ("max", toJson p.maxConnections),
      ("timeout_secs", toJson p.acquireTimeoutSeconds)]

end RideLedger
