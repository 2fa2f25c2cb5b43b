import RideLedger.Database.Tables

/-!
# The schema and its history

The tables come into a database by a migration, which is applied once. What was
applied is recorded in a history, and before anything is applied the history
has to agree with the migrations that are known: nothing half done, nothing
unknown, nothing changed since.
-/

namespace RideLedger

/-- A recorded migration. -/
structure AppliedMigration where
  version : Nat
  /-- Whether it was applied to the end. -/
  complete : Bool
  /-- Whether it was the migration that is known by this version. -/
  genuine : Bool
deriving DecidableEq

/-- The version of the only migration. -/
def schemaVersion : Nat := 20240101

/-- The name of the history's table. -/
def historyTable : String := "_sqlx_migrations"

/-- What a database is made of: each part may not be there yet. -/
structure Schema where
  tables : Option Tables
  history : Option (List AppliedMigration)

namespace Schema

/-- A new database. -/
def blank : Schema := { tables := none, history := none }

/-- The names of all tables, in order. -/
def tableNames (s : Schema) : List String :=
  let own := if s.tables.isSome then (Choice.values : List TableName).map Choice.word else []
  let history := if s.history.isSome then [historyTable] else []
  (own ++ history).mergeSort (· ≤ ·)

/-- The fault of a history that does not agree with the known migration. -/
def historyFault? (history : List AppliedMigration) : Option String :=
  let said (m : AppliedMigration) (text : String) : String :=
    "migration " ++ Nat.repr m.version ++ " " ++ text
  match history.find? (!·.complete) with
  | some m =>
    some (said m ("is partially applied; fix and remove row from `" ++ historyTable ++ "` table"))
  | none =>
    match history.find? (·.version ≠ schemaVersion) with
    | some m => some (said m "was previously applied but is missing in the resolved migrations")
    | none =>
      (history.find? (!·.genuine)).map fun m =>
        said m "was previously applied but has been modified"

/-- Applies the migration, unless it was applied. The history is there
afterwards in any case. -/
def migrate (s : Schema) : Except DatabaseError Unit × Schema :=
  let history := s.history.getD []
  let failed (text : String) : Except DatabaseError Unit := .error (.migrationFailed text)
  let s := { s with history := some history }
  match historyFault? history with
  | some text => (failed text, s)
  | none =>
    if history.any (·.version = schemaVersion) then (.ok (), s)
    else if s.tables.isSome then
      (failed ("while executing migration " ++ Nat.repr schemaVersion ++ ": "
        ++ (SqlFault.existingType "account_type").message), s)
    else
      let applied : AppliedMigration :=
        { version := schemaVersion, complete := true, genuine := true }
      (.ok (), { tables := some .empty, history := some (history ++ [applied]) })

/-- A database that the migration was applied to. -/
def installed : Schema := blank.migrate.2

/-! ## Changes of the history -/

/-- What can be done to a history. -/
inductive HistoryChange
  /-- What was applied is no longer what is known. -/
  | alter
  /-- What was applied is no longer complete. -/
  | dirty
  /-- Something unknown was applied. -/
  | insert
deriving DecidableEq

/-- The version of the unknown migration. -/
def unknownVersion : Nat := 1

/-- Changes the history, and says how many rows of it. -/
def changeHistory (change : HistoryChange) (s : Schema) : Except SqlFault (Nat × Schema) :=
  match s.history with
  | none => .error (.missingTable historyTable)
  | some history =>
    let all (f : AppliedMigration → AppliedMigration) : Nat × Schema :=
      (history.length, { s with history := some (history.map f) })
    match change with
    | .alter => .ok (all fun m => { m with genuine := false })
    | .dirty => .ok (all fun m => { m with complete := false })
    | .insert =>
      if history.any (·.version = unknownVersion) then
        .error (.duplicateKey (historyTable ++ "_pkey"))
      else
        let unknown : AppliedMigration :=
          { version := unknownVersion, complete := true, genuine := false }
        .ok (1, { s with history := some (unknown :: history) })

end Schema

end RideLedger
