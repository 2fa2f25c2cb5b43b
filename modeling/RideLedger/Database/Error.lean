import RideLedger.BillingError

/-!
# Database errors

What can go wrong in a relational database, in three steps: the fault that the
database or the connection to it answers (`SqlFault`), the class it belongs to
(`DatabaseError`), and what that means for a store (`StoreFault`). Faults of
the database itself are told apart by their five-letter code.
-/

namespace RideLedger

/-- A fault as the database or the connection answers it. -/
inductive SqlFault
  | rowNotFound
  | poolTimedOut
  | poolClosed
  | io (text : String)
  | tls (text : String)
  | protocol (text : String)
  | columnDecode (index text : String)
  | database (code constraint table : Option String) (text : String)
  /-- A fault of another kind, in its own words. -/
  | other (text : String)
deriving DecidableEq

/-- The wording of a fault. -/
def SqlFault.message : SqlFault → String
  | .rowNotFound => "no rows returned by a query that expected to return at least one row"
  | .poolTimedOut => "pool timed out while waiting for an open connection"
  | .poolClosed => "attempted to acquire a connection on a closed pool"
  | .io text => "error communicating with database: " ++ text
  | .tls text => "error occurred while attempting to establish a TLS connection: " ++ text
  | .protocol text => "encountered unexpected or invalid data: " ++ text
  | .columnDecode index text => "error occurred while decoding column " ++ index ++ ": " ++ text
  | .database _ _ _ text => "error returned from database: " ++ text
  | .other text => text

/-- A class of faults. -/
inductive DatabaseError
  | connectionFailed (text : String)
  | queryFailed (text : String)
  | notFound (entity id : String)
  | duplicateEntry (constraint : Option String) (text : String)
  | foreignKeyViolation (text : String)
  | constraintViolation (text : String)
  | immutableRecord (table text : String)
  | numericOverflow (text : String)
  | inactive (entity id : String)
  | migrationFailed (text : String)
  | corruptRow (text : String)
  | poolExhausted
deriving DecidableEq

namespace DatabaseError

/-- The wording of an error. -/
def message : DatabaseError → String
  | .connectionFailed text => "Failed to connect to database: " ++ text
  | .queryFailed text => "Query failed: " ++ text
  | .notFound entity id => entity ++ " with id '" ++ id ++ "' not found"
  | .duplicateEntry _ text => "Duplicate entry: " ++ text
  | .foreignKeyViolation text => "Foreign key violation: " ++ text
  | .constraintViolation text => "Constraint violation: " ++ text
  | .immutableRecord table text => "Immutable record in " ++ table ++ ": " ++ text
  | .numericOverflow text => "Numeric value out of range: " ++ text
  | .inactive entity id => entity ++ " with id '" ++ id ++ "' is inactive"
  | .migrationFailed text => "Migration failed: " ++ text
  | .corruptRow text => "Corrupt row: " ++ text
  | .poolExhausted => "Connection pool exhausted"

/-- The name of an error. -/
def label : DatabaseError → String
  | .connectionFailed .. => "ConnectionFailed"
  | .queryFailed .. => "QueryFailed"
  | .notFound .. => "NotFound"
  | .duplicateEntry .. => "DuplicateEntry"
  | .foreignKeyViolation .. => "ForeignKeyViolation"
  | .constraintViolation .. => "ConstraintViolation"
  | .immutableRecord .. => "ImmutableRecord"
  | .numericOverflow .. => "NumericOverflow"
  | .inactive .. => "Inactive"
  | .migrationFailed .. => "MigrationFailed"
  | .corruptRow .. => "CorruptRow"
  | .poolExhausted => "PoolExhausted"

def isNotFound : DatabaseError → Bool
  | .notFound .. => true
  | _ => false

/-- Whether a row repeats what the constraint keeps unique. -/
def isDuplicateOn (name : String) : DatabaseError → Bool
  | .duplicateEntry constraint _ => constraint = some name
  | _ => false

def isConstraintViolation : DatabaseError → Bool
  | .duplicateEntry .. | .foreignKeyViolation .. | .constraintViolation .. => true
  | _ => false

/-- Whether no connection could be had. -/
def isConnectionError : DatabaseError → Bool
  | .connectionFailed .. | .poolExhausted => true
  | _ => false

/-- The class of a database fault, by its code. -/
def ofCode (code constraint table : Option String) (text : String) : DatabaseError :=
  match code with
  | some "23505" => .duplicateEntry constraint text
  | some "23503" => .foreignKeyViolation text
  | some "23514" => .constraintViolation text
  | some "22003" => .numericOverflow text
  | some "P0001" => .immutableRecord (table.getD "record") text
  | _ => .queryFailed text

/-- The class of a fault. -/
def ofSqlFault : SqlFault → DatabaseError
  | .rowNotFound => .notFound "record" ""
  | .poolTimedOut => .poolExhausted
  | .poolClosed => .connectionFailed "pool closed"
  | .io text | .tls text => .connectionFailed text
  | .columnDecode index text => .corruptRow ("column " ++ index ++ ": " ++ text)
  | .database code constraint table text => ofCode code constraint table text
  | fault => .queryFailed fault.message

/-- What an error means for a store. -/
def toStoreFault : DatabaseError → StoreFault
  | .notFound entity id => .notFound entity id
  | .duplicateEntry _ text => .conflict text
  | .foreignKeyViolation text => .notFound "reference" text
  | .constraintViolation text => .validation text none
  | .numericOverflow text => .validation text (some "amount")
  | .inactive entity id => .inactive entity id
  | .immutableRecord table text => .immutable table text
  | .connectionFailed text => .connection text
  | .poolExhausted => .timeout "acquire database connection" 0
  | error => .internal error.message

/-- A row that breaks a rule. -/
def corrupt (e : BillingError) : DatabaseError := .corruptRow e.message

end DatabaseError

end RideLedger
