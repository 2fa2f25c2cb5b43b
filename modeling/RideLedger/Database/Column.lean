import RideLedger.Database.Error
import RideLedger.Money

/-!
# Parameters and columns

What a statement takes and what a column keeps. Parameters are taken first, in
the order they are handed over: a text may not hold the zero character, an
instant is cut to whole microseconds, and neither instants nor dates may lie
before the first day of the database. Then each column takes its value: texts
are bounded in length, amounts are kept with four fractional digits.
-/

namespace RideLedger

namespace SqlFault

/-- A fault of the database itself, by code and text. -/
def coded (code text : String) : SqlFault := .database (some code) none none text

def zeroCharacter : SqlFault := coded "22021" "invalid byte sequence for encoding \"UTF8\": 0x00"
def instantRange : SqlFault := coded "22008" "timestamp out of range"
def dateRange : SqlFault := coded "22008" "date out of range"
def numberRange : SqlFault := coded "22003" "integer out of range"
def amountRange : SqlFault := coded "22003" "numeric field overflow"

/-- A text that is longer than its column. -/
def tooLong (type : String) (length : Nat) : SqlFault :=
  coded "22001" ("value too long for type " ++ type ++ "(" ++ Nat.repr length ++ ")")

def missingTable (table : String) : SqlFault :=
  coded "42P01" ("relation \"" ++ table ++ "\" does not exist")

def missingType (type : String) : SqlFault :=
  coded "42704" ("type \"" ++ type ++ "\" does not exist")

def existingType (type : String) : SqlFault :=
  coded "42710" ("type \"" ++ type ++ "\" already exists")

/-- A row that repeats a key. -/
def duplicateKey (constraint : String) : SqlFault :=
  .database (some "23505") (some constraint) none
    ("duplicate key value violates unique constraint \"" ++ constraint ++ "\"")

/-- A row that breaks a condition of its table. -/
def brokenCheck (table constraint : String) : SqlFault :=
  .database (some "23514") (some constraint) (some table)
    ("new row for relation \"" ++ table ++ "\" violates check constraint \"" ++ constraint ++ "\"")

/-- A row that refers to one that is not there. -/
def brokenReference (table constraint : String) : SqlFault :=
  .database (some "23503") (some constraint) (some table)
    ("insert or update on table \"" ++ table ++ "\" violates foreign key constraint \""
      ++ constraint ++ "\"")

/-- A removed row that others refer to. -/
def stillReferenced (table constraint other : String) : SqlFault :=
  .database (some "23503") (some constraint) (some other)
    ("update or delete on table \"" ++ table ++ "\" violates foreign key constraint \""
      ++ constraint ++ "\" on table \"" ++ other ++ "\"")

/-- A change of a table that is only added to. -/
def forbidden (change table : String) : SqlFault :=
  .database (some "P0001") none (some table) (change ++ " on " ++ table ++ " is not allowed")

end SqlFault

/-! ## Parameters -/

namespace Parameter

/-- The number of the first day of the database, -4713-11-24. -/
abbrev firstDay : Int := -2440588

/-- The instant that microseconds are counted from, 2000-01-01. -/
abbrev origin : Int := 10957 * secondsPerDay * nanosPerSecond

/-- A text. -/
def text (s : String) : Except SqlFault String :=
  if s.any (· == '\x00') then .error .zeroCharacter else .ok s

/-- An instant in whole microseconds; what is left over is cut off towards the
origin. There are no leap seconds, so one becomes the first second of the next
minute. -/
def instant (t : Instant) : Except SqlFault Instant :=
  let cut := origin + (t.nanos - origin).tdiv 1000 * 1000
  if cut < firstDay * secondsPerDay * nanosPerSecond then .error .instantRange
  else match Instant.ofNanos? cut with
    | some t => .ok t
    | none => .error .instantRange

/-- A date. -/
def date (d : Date) : Except SqlFault Date :=
  if d.number < firstDay then .error .dateRange else .ok d

end Parameter

/-! ## Columns -/

namespace Column

/-- A text of at most `length` characters. Blanks behind them are cut off. -/
def text (length : Nat) (s : String) : Except SqlFault String :=
  if s.length ≤ length then .ok s
  else if (s.toList.drop length).all (· == ' ') then .ok (String.ofList (s.toList.take length))
  else .error (.tooLong "character varying" length)

/-- A text without the blanks at its end, which do not count where texts are
filled up with blanks. -/
def bare (s : String) : String := String.ofList (s.toList.reverse.dropWhile (· == ' ')).reverse

/-- A text of `length` characters, held without the blanks that fill it up. -/
def filled (length : Nat) (s : String) : Except SqlFault String :=
  if (bare s).length ≤ length then .ok (bare s) else .error (.tooLong "character" length)

/-- Amounts are below this number of their units. -/
abbrev unitBound : Nat := 10 ^ 19

/-- The amount with a number of units of the fourth fractional digit; a zero is
plain. -/
def ofUnits? (units : Int) : Option Decimal :=
  if units = 0 then some Decimal.zero
  else if h : units.natAbs < Decimal.mantissaBound then
    some (.ofSigned units moneyScale h (by decide))
  else none

/-- The units of an amount. -/
def units (d : Decimal) : Int := (d.round moneyScale).atScale moneyScale

/-- An amount with four fractional digits. -/
def amount (d : Decimal) : Except SqlFault Decimal :=
  if unitBound ≤ (units d).natAbs then .error .amountRange
  else match ofUnits? (units d) with
    | some d => .ok d
    | none => .error .amountRange

/-- The sum of kept amounts, of any size that a decimal has room for. -/
def total (ds : List Decimal) : Except SqlFault Decimal :=
  match ofUnits? ((ds.map units).foldl (· + ·) 0) with
  | some d => .ok d
  | none => .error .amountRange

/-- A number of 31 bits and a sign. -/
def integer (n : Int) : Except SqlFault Int :=
  if -(2 ^ 31) ≤ n ∧ n < 2 ^ 31 then .ok n else .error .numberRange

end Column

end RideLedger
