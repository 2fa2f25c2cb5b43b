import RideLedger.Proofs.Schedule
import RideLedger.Proofs.Written

/-!
# Ranges — what holds of a period whose ends are in order

The constructors of periods and ranges give exactly those whose end is not before the start
(`BillingPeriod.constructed_iff`, `StatementRange.constructed_iff`). A document can hold any two
dates, and what is read from it is the pair of them (`BillingPeriod.ofJson?_toJson`), inverted ones
included. Both numbers of a period rest on the order of its ends: its days are below zero without
it, and a period with no instant in it is not taken for empty (`BillingPeriod.isEmpty_law_iff`).
-/

namespace RideLedger

namespace BillingPeriod

variable {p : BillingPeriod} {t : Instant}

/-- The periods that the constructors give. -/
inductive Constructed : BillingPeriod → Prop
  | new {start finish : Date} {p : BillingPeriod} : new start finish = .ok p → Constructed p
  | singleDay {day : Date} {p : BillingPeriod} : singleDay day = .ok p → Constructed p
  | previousDay {today : Date} {p : BillingPeriod} : previousDay today = .ok p → Constructed p
  | trailingWeek {today : Date} {p : BillingPeriod} : trailingWeek today = .ok p → Constructed p
  | previousMonth {today : Date} {p : BillingPeriod} : previousMonth today = .ok p → Constructed p
  | run {f : InvoiceFrequency} {asOf : Instant} {p : BillingPeriod} :
      f.periodEndingBefore asOf = .ok p → Constructed p

theorem le_of_new {start finish : Date} (h : new start finish = .ok p) : p.start ≤ p.finish := by
  obtain ⟨hle, rfl⟩ := new_eq_ok_iff.1 h
  exact hle

/-- **The constructors give the periods whose ends are in order.** -/
theorem constructed_iff : p.Constructed ↔ p.start ≤ p.finish := by
  refine ⟨fun h => ?_, fun hle => .new (new_eq_ok_iff.2 ⟨hle, rfl⟩)⟩
  -- every other constructor hands its dates to the first one
  cases h with
  | new h => exact le_of_new h
  | singleDay h | previousDay h | trailingWeek h =>
    obtain ⟨_, -, hnew⟩ := bind_eq_ok.1 h
    exact le_of_new hnew
  | previousMonth h =>
    obtain ⟨_, -, hmonth⟩ := bind_eq_ok.1 h
    obtain ⟨_, -, hnew⟩ := bind_eq_ok.1 hmonth
    exact le_of_new hnew
  | @run f asOf _ h =>
    have hscheduled := InvoiceFrequency.isScheduled_of_ok h
    obtain ⟨hstart, hfinish⟩ := (InvoiceFrequency.periodEndingBefore_eq_ok_iff hscheduled).1 h
    have hlt := InvoiceFrequency.firstBilled_lt hscheduled asOf.date
    rw [← hstart, ← hfinish] at hlt
    exact hlt.le

/-- What a document with two fields is read as. -/
theorem ofJson?_object (start finish : Json) :
    (ofJson? (.object [("start", start), ("end", finish)]) : Option BillingPeriod) =
      (ofJson? start).bind fun s => (ofJson? finish).bind fun e =>
        some { start := s, finish := e } := rfl

/-- **A period is read back from its document**, whatever its two dates are. -/
theorem ofJson?_toJson (p : BillingPeriod) : ofJson? (toJson p) = some p := by
  refine (ofJson?_object (toJson p.start) (toJson p.finish)).trans ?_
  rw [Date.ofJson?_toJson, Date.ofJson?_toJson]
  rfl

theorem days_nonneg_iff : 0 ≤ p.days ↔ p.start ≤ p.finish := Int.sub_nonneg

/-- An instant falls into a period just if its first day is before its end. -/
theorem forall_not_contains_iff : (∀ t, p.contains t = false) ↔ p.finish ≤ p.start := by
  constructor
  · intro h
    have hfirst := (BillingPeriod.contains_iff (t := p.start.midnight)).not.1
      (Bool.eq_false_iff.1 (h _))
    rw [Date.date_midnight] at hfirst
    exact Int.not_lt.1 fun hlt => hfirst ⟨Int.le_refl _, hlt⟩
  · intro hle t
    refine Bool.eq_false_iff.2 fun hin => ?_
    obtain ⟨hlow, hhigh⟩ := BillingPeriod.contains_iff.1 hin
    exact absurd (Int.lt_of_le_of_lt hlow hhigh) (Int.not_lt.2 hle)

/-- **The empty periods are those without an instant, as long as the ends are in order**; of the
others none is empty, and none has an instant. -/
theorem isEmpty_law_iff :
    (p.isEmpty = true ↔ ∀ t, p.contains t = false) ↔ p.start ≤ p.finish := by
  have hempty : p.isEmpty = true ↔ p.start.number = p.finish.number := by
    rw [isEmpty, beq_iff_eq, Date.number_inj]
  rw [forall_not_contains_iff, hempty]
  change (p.start.number = p.finish.number ↔ p.finish.number ≤ p.start.number) ↔
    p.start.number ≤ p.finish.number
  omega

end BillingPeriod

namespace StatementRange

variable {r : StatementRange}

/-- The ranges that the constructor gives. -/
def Constructed (r : StatementRange) : Prop := ∃ start finish, new start finish = .ok r

/-- **The constructor gives the ranges whose ends are in order.** -/
theorem constructed_iff : r.Constructed ↔ r.start ≤ r.finish := by
  constructor
  · rintro ⟨start, finish, h⟩
    rw [new] at h
    split at h
    · next hle => exact Except.ok.inj h ▸ hle
    · cases h
  · exact fun hle => ⟨r.start, r.finish, if_pos hle⟩

theorem ofJson?_object (start finish : Json) :
    (ofJson? (.object [("start", start), ("end", finish)]) : Option StatementRange) =
      (ofJson? start).bind fun s => (ofJson? finish).bind fun e =>
        some { start := s, finish := e } := rfl

/-- **A range is read back from its document**, whatever its two instants are. -/
theorem ofJson?_toJson (r : StatementRange) : ofJson? (toJson r) = some r := by
  refine (ofJson?_object (toJson r.start) (toJson r.finish)).trans ?_
  rw [Instant.ofJson?_toJson, Instant.ofJson?_toJson]
  rfl

end StatementRange

/-- **Periods and ranges are in order as far as constructors give them, and only so far.** The
constructors give those whose ends are in order, and no others; a document gives any, in order or
not. A period has a number of days that is not below zero if and only if its ends are in order, and
it is then, and only then, that it is taken for empty just if no instant falls into it. -/
theorem ranges_inOrder (p : BillingPeriod) (r : StatementRange) :
    (p.Constructed ↔ p.start ≤ p.finish) ∧ (r.Constructed ↔ r.start ≤ r.finish) ∧
      ofJson? (toJson p) = some p ∧ ofJson? (toJson r) = some r ∧
      (0 ≤ p.days ↔ p.start ≤ p.finish) ∧
      ((p.isEmpty = true ↔ ∀ t, p.contains t = false) ↔ p.start ≤ p.finish) :=
  ⟨BillingPeriod.constructed_iff, StatementRange.constructed_iff, p.ofJson?_toJson,
    r.ofJson?_toJson, BillingPeriod.days_nonneg_iff, BillingPeriod.isEmpty_law_iff⟩

/-- A document with its dates the wrong way round is read as a period: of minus one day, without an
instant, and not taken for empty. A range of instants is read the same way. -/
theorem ranges_inverted :
    (∃ p : BillingPeriod,
      ofJson? (.object [("start", .string "2024-03-02"), ("end", .string "2024-03-01")]) = some p ∧
        ¬p.start ≤ p.finish ∧ p.days = -1 ∧ p.isEmpty = false ∧ ∀ t, p.contains t = false) ∧
      ∃ r : StatementRange,
        ofJson? (.object [("start", .string "2024-03-02T00:00:00Z"),
          ("end", .string "2024-03-01T00:00:00Z")]) = some r ∧ ¬r.start ≤ r.finish := by
  refine ⟨⟨{ start := { number := 19784 }, finish := { number := 19783 } }, by decide, by decide,
    rfl, rfl, ?_⟩, { start := .ofSecond (19784 * 86400), finish := .ofSecond (19783 * 86400) },
    by decide, by decide⟩
  exact BillingPeriod.forall_not_contains_iff.2 (by decide)

end RideLedger
