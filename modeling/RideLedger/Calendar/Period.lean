import RideLedger.Calendar.Text

/-!
# Periods

A billing period is a half-open range of dates, used to select the charges of
an invoice. A statement range is a closed range of instants. The constructors
refuse an end before the start. A period read from a document is taken as it
is, and nothing falls into an inverted one.
-/

namespace RideLedger

/-- Why a period could not be had. -/
inductive TemporalError
  /-- The end lies before the start. -/
  | invalidPeriod (start finish : String)
  /-- A date next to this one is out of range. -/
  | outOfRange (date : String)
deriving DecidableEq, Repr

/-- The wording of an error. -/
def TemporalError.message : TemporalError → String
  | .invalidPeriod start finish =>
    "Invalid period: end " ++ finish ++ " is before start " ++ start
  | .outOfRange date => "Date out of supported range: " ++ date

/-- The dates from `start` up to, not including, `finish`. -/
structure BillingPeriod where
  start : Date
  finish : Date
deriving DecidableEq, Repr

namespace BillingPeriod

/-- The period between two dates. -/
def new (start finish : Date) : Except TemporalError BillingPeriod :=
  if start ≤ finish then .ok { start := start, finish := finish }
  else .error (.invalidPeriod start.toText finish.toText)

/-- A date derived from another one, or the error that there is none. -/
def orOutOfRange (day : Date) (derived : Option Date) : Except TemporalError Date :=
  match derived with
  | some d => .ok d
  | none => .error (.outOfRange day.toText)

/-- One day. -/
def singleDay (day : Date) : Except TemporalError BillingPeriod := do
  new day (← orOutOfRange day (day.addDays? 1))

/-- The day before. -/
def previousDay (today : Date) : Except TemporalError BillingPeriod := do
  new (← orOutOfRange today (today.addDays? (-1))) today

/-- The seven days before. -/
def trailingWeek (today : Date) : Except TemporalError BillingPeriod := do
  new (← orOutOfRange today (today.addDays? (-7))) today

/-- The calendar month before. -/
def previousMonth (today : Date) : Except TemporalError BillingPeriod := do
  let thisMonth ← orOutOfRange today today.monthStart?
  new (← orOutOfRange today today.previousMonthStart?) thisMonth

/-- The first instant. -/
def startInstant (p : BillingPeriod) : Instant := p.start.midnight

/-- The first instant after the period. -/
def endInstant (p : BillingPeriod) : Instant := p.finish.midnight

/-- Whether an instant falls into the period. -/
def contains (p : BillingPeriod) (t : Instant) : Bool := p.startInstant ≤ t && t < p.endInstant

/-- Whether no instant falls into the period. -/
def isEmpty (p : BillingPeriod) : Bool := p.start == p.finish

/-- The number of days. -/
def days (p : BillingPeriod) : Int := p.finish.number - p.start.number

end BillingPeriod

/-- The instants from `start` to `finish`, both included. -/
structure StatementRange where
  start : Instant
  finish : Instant
deriving DecidableEq, Repr

namespace StatementRange

/-- The range between two instants. -/
def new (start finish : Instant) : Except TemporalError StatementRange :=
  if start ≤ finish then .ok { start := start, finish := finish }
  else .error (.invalidPeriod start.offsetText finish.offsetText)

/-- Whether an instant falls into the range. -/
def contains (r : StatementRange) (t : Instant) : Bool := r.start ≤ t && t ≤ r.finish

end StatementRange

/-! ## Documents -/

instance : ToJson BillingPeriod :=
  ⟨fun p => .object [("start", toJson p.start), ("end", toJson p.finish)]⟩

instance : OfJson BillingPeriod where
  ofJson? j := do
    match ← j.fields? ["start", "end"] 0 with
    | [start, finish] =>
      some { start := ← Json.required? start, finish := ← Json.required? finish }
    | _ => none

instance : ToJson StatementRange :=
  ⟨fun r => .object [("start", toJson r.start), ("end", toJson r.finish)]⟩

instance : OfJson StatementRange where
  ofJson? j := do
    match ← j.fields? ["start", "end"] 0 with
    | [start, finish] =>
      some { start := ← Json.required? start, finish := ← Json.required? finish }
    | _ => none

end RideLedger
