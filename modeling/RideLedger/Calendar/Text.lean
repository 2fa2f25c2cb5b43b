import RideLedger.Calendar.Instant
import RideLedger.Decimal.Text
import RideLedger.Json.Basic
import RideLedger.Text.Blank

/-!
# Dates and instants as text

A date is written `YYYY-MM-DD`; years outside 0 to 9999 carry a sign and at
least five characters. An instant is written as its date, `T`, its time with 0,
3, 6 or 9 fractional digits, the least that is exact, and its offset, which is
always zero.

Reading is freer: single digits are enough, blanks may stand in front of every
part and before the offset, a blank may take the place of `T`, and any offset
below a day is taken off. Every minute may have a leap second.
-/

namespace RideLedger

/-- A number with zeros in front, up to `width` digits. -/
def padded (n width : Nat) : String := Decimal.digits n width

/-- A year: four digits, or a sign and at least four digits. -/
def yearText (year : Int) : String :=
  if year < 0 then "-" ++ padded year.natAbs 4
  else if 9999 < year then "+" ++ padded year.natAbs 4
  else padded year.natAbs 4

namespace Date

/-- The written form of a date. -/
def toText (d : Date) : String :=
  let c := d.civil
  yearText c.year ++ "-" ++ padded c.month 2 ++ "-" ++ padded c.day 2

instance : ToString Date := ⟨toText⟩

end Date

namespace Instant

/-- The fraction of a second, in 0, 3, 6 or 9 digits. -/
def fractionText (nanos : Nat) : String :=
  if nanos = 0 then ""
  else if nanos % 1000000 = 0 then "." ++ padded (nanos / 1000000) 3
  else if nanos % 1000 = 0 then "." ++ padded (nanos / 1000) 6
  else "." ++ padded nanos 9

/-- The written form of an instant up to the offset. A leap second is the
sixtieth of its minute. -/
def localText (t : Instant) : String :=
  let s := t.secondOfDay
  t.date.toText ++ "T" ++ padded (s / 3600) 2 ++ ":" ++ padded (s / 60 % 60) 2 ++ ":"
    ++ padded (s % 60 + t.nano / nanosPerSecond) 2 ++ fractionText (t.nano % nanosPerSecond)

/-- The written form of an instant, marked `Z`. -/
def toText (t : Instant) : String := t.localText ++ "Z"

/-- The written form with the offset spelled out. -/
def offsetText (t : Instant) : String := t.localText ++ "+00:00"

instance : ToString Instant := ⟨toText⟩

end Instant

/-! ## Reading -/

/-- Up to `width` digits, at least one, as a number. -/
def scanNumber? (width : Nat) (cs : List Char) : Option (Nat × List Char) :=
  let ds := (cs.take width).takeWhile Char.isDigit
  (Decimal.natOfDigits? ds).map fun n => (n, cs.drop ds.length)

/-- Blanks, then up to two digits. -/
def scanPart? (cs : List Char) : Option (Nat × List Char) := scanNumber? 2 (cs.dropWhile isBlank)

/-- Blanks, then a year: a sign and any number of digits, or up to four digits. -/
def scanYear? (cs : List Char) : Option (Int × List Char) :=
  match cs.dropWhile isBlank with
  | '-' :: rest => (scanNumber? rest.length rest).map fun (n, r) => (-(n : Int), r)
  | '+' :: rest => (scanNumber? rest.length rest).map fun (n, r) => ((n : Int), r)
  | rest => (scanNumber? 4 rest).map fun (n, r) => ((n : Int), r)

/-- Blanks, then the given character. -/
def scanMark? (mark : Char) (cs : List Char) : Option (List Char) :=
  match cs.dropWhile isBlank with
  | c :: rest => if c = mark then some rest else none
  | [] => none

/-- Year, month and day, divided by hyphens. -/
def scanCivil? (cs : List Char) : Option (Civil × List Char) := do
  let (year, rest) ← scanYear? cs
  let (month, rest) ← scanPart? (← scanMark? '-' rest)
  let (day, rest) ← scanPart? (← scanMark? '-' rest)
  some ({ year := year, month := month, day := day }, rest)

/-- Reads a date. -/
def Date.ofText? (s : String) : Option Date := do
  let (c, rest) ← scanCivil? s.toList
  if rest.dropWhile isBlank = [] then Date.ofCivil? c else none

/-- A fraction of a second in nanoseconds; digits beyond nine are not looked
at. -/
def scanFraction? : List Char → Option (Nat × List Char)
  | '.' :: rest =>
    (scanNumber? 9 rest).map fun (n, _) =>
      let ds := rest.takeWhile Char.isDigit
      (n * 10 ^ (9 - ds.length), rest.drop ds.length)
  | rest => some (0, rest)

/-- Two digits exactly. -/
def scanTwo? : List Char → Option (Nat × List Char)
  | a :: b :: rest => do
    some ((← Decimal.digit? a) * 10 + (← Decimal.digit? b), rest)
  | _ => none

/-- An offset from universal time in seconds: `Z`, `UTC`, or a sign, hours and
minutes, with colons or blanks between them. -/
def scanOffset? (cs : List Char) : Option (Int × List Char) :=
  let hoursAndMinutes (rest : List Char) : Option (Int × List Char) := do
    let (hours, rest) ← scanTwo? rest
    let (minutes, rest) ← scanTwo? (rest.dropWhile fun c => c = ':' || isBlank c)
    if minutes < 60 ∧ hours < 24 then some ((hours * 3600 + minutes * 60 : Nat), rest) else none
  match cs with
  | 'Z' :: rest | 'z' :: rest => some (0, rest)
  | '+' :: rest => hoursAndMinutes rest
  | '-' :: rest | '−' :: rest => (hoursAndMinutes rest).map fun (n, r) => (-n, r)
  | u :: t :: c :: rest =>
    if [u, t, c].map Char.toLower = ['u', 't', 'c'] then some (0, rest) else none
  | _ => none

/-- Reads an instant. -/
def Instant.ofText? (s : String) : Option Instant := do
  let (c, rest) ← scanCivil? s.toList
  let rest ← match rest with
    | 'T' :: rest | 't' :: rest | ' ' :: rest => some rest
    | _ => none
  let (hour, rest) ← scanPart? rest
  let (minute, rest) ← scanPart? (← scanMark? ':' rest)
  let (second, rest) ← scanPart? (← scanMark? ':' rest)
  let (nanos, rest) ← scanFraction? rest
  let (offset, rest) ← scanOffset? (rest.dropWhile isBlank)
  let date ← Date.ofCivil? c
  if rest.dropWhile isBlank = [] ∧ hour < 24 ∧ minute < 60 ∧ second ≤ 60 then
    let leap := second / 60
    Instant.at?
      (date.number * secondsPerDay + (hour * 3600 + minute * 60 + (second - leap) : Nat) - offset)
      (leap * nanosPerSecond + nanos)
  else none

/-! ## Documents -/

instance : ToJson Date := ⟨fun d => .string d.toText⟩
instance : OfJson Date := ⟨fun | .string s => Date.ofText? s | _ => none⟩

instance : ToJson Instant := ⟨fun t => .string t.toText⟩
instance : OfJson Instant := ⟨fun | .string s => Instant.ofText? s | _ => none⟩

end RideLedger
