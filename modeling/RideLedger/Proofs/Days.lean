import RideLedger.Proofs.Results

/-!
# Days — the instants of a period, read by their dates

A period runs from the beginning of its first day up to the beginning of the day after its last
one, and instants are compared by their seconds and nanoseconds. What falls into it can be read off
the date alone (`BillingPeriod.contains_iff`), a leap second at the end of a day included.
-/

namespace RideLedger

namespace Date

variable {day next : Date}

/-- A number is that of a date if it is in range. -/
theorem ofNumber?_eq_some_iff {n : Int} : ofNumber? n = some day ↔ day.number = n := by
  rw [ofNumber?]
  constructor
  · intro h
    split at h
    · rw [← Option.some.inj h]
    · cases h
  · rintro rfl
    exact dif_pos ⟨day.first_le, day.le_last⟩

theorem ofNumber?_eq_none_iff {n : Int} : ofNumber? n = none ↔ n < firstDay ∨ lastDay < n := by
  rw [ofNumber?]
  split <;> simp <;> omega

/-- A date is known by its number. -/
theorem number_inj : day.number = next.number ↔ day = next :=
  ⟨fun h => Option.some.inj ((ofNumber?_eq_some_iff.2 h).symm.trans (ofNumber?_eq_some_iff.2 rfl)),
    congrArg number⟩

theorem number_of_addDays? {days : Int} (h : day.addDays? days = some next) :
    next.number = day.number + days :=
  ofNumber?_eq_some_iff.1 h

/-- There is a date a number of days later, unless it would lie behind the last one. -/
theorem addDays?_eq_none_iff {days : Nat} :
    day.addDays? days = none ↔ lastDay < day.number + days := by
  have hfirst := day.first_le
  rw [addDays?, ofNumber?_eq_none_iff]
  omega

theorem isSome_addDays?_iff {days : Nat} :
    (day.addDays? days).isSome ↔ day.number + days ≤ lastDay := by
  rw [Option.isSome_iff_ne_none, ne_eq, addDays?_eq_none_iff, Int.not_lt]

/-- Every day but the last has a day after it. -/
theorem isSome_addDays?_one : (day.addDays? 1).isSome ↔ day.number < lastDay :=
  isSome_addDays?_iff.trans Int.add_one_le_iff

/-- The beginning of a day is of that day. -/
theorem date_midnight (day : Date) : day.midnight.date = day :=
  number_inj.1 (Int.mul_ediv_cancel day.number (by decide))

/-- **A day has begun by an instant** when the instant is of that day or of a later one. -/
theorem midnight_le_iff {t : Instant} : day.midnight ≤ t ↔ day ≤ t.date := by
  -- nanoseconds run up to two seconds, and ranks leave room for both
  have hnano := t.nano_lt
  change day.number * secondsPerDay * (2 * nanosPerSecond : Nat) + (0 : Nat) ≤
      t.second * (2 * nanosPerSecond : Nat) + t.nano ↔ day.number ≤ t.second / secondsPerDay
  simp only [nanosPerSecond, secondsPerDay] at hnano ⊢
  omega

theorem lt_midnight_iff {t : Instant} : t < day.midnight ↔ t.date < day := by
  have hnot : t < day.midnight ↔ ¬day.midnight ≤ t := Int.not_le.symm
  rw [hnot, midnight_le_iff]
  exact Int.not_le

end Date

namespace BillingPeriod

variable {day next : Date}

/-- A period starts before it ends, or is empty. -/
theorem new_eq_ok_iff {start finish : Date} {p : BillingPeriod} :
    new start finish = .ok p ↔ start ≤ finish ∧ p = { start := start, finish := finish } := by
  rw [new]
  split
  · next hle => rw [and_iff_right hle, Except.ok.injEq, eq_comm]
  · next hle => exact iff_of_false (by simp) fun h => hle h.1

/-- **A period holds the instants of its days.** -/
theorem contains_iff {p : BillingPeriod} {t : Instant} :
    p.contains t = true ↔ p.start ≤ t.date ∧ t.date < p.finish := by
  rw [contains, Bool.and_eq_true, decide_eq_true_iff, decide_eq_true_iff, startInstant, endInstant,
    Date.midnight_le_iff, Date.lt_midnight_iff]

/-- A day with a day after it has a period of its own. -/
theorem gives_singleDay (h : day.addDays? 1 = some next) :
    (Outcome.ofTemporal (singleDay day)).Gives { start := day, finish := next } := by
  have hle : day ≤ next := by
    change day.number ≤ next.number
    rw [Date.number_of_addDays? h]
    exact Int.le_add_one (Int.le_refl _)
  have hday : singleDay day = .ok { start := day, finish := next } := by
    rw [singleDay, h]
    exact if_pos hle
  rw [hday]
  rfl

/-- The last day has none. -/
theorem run_singleDay_of_none (h : day.addDays? 1 = none) :
    (Outcome.ofTemporal (singleDay day)).run =
      .ok (.error (.validation (.period (.outOfRange day.toText)))) := by
  rw [singleDay, h]
  rfl

/-- **An instant falls into the period of its day.** -/
theorem contains_singleDay {t : Instant} (h : t.date.addDays? 1 = some next) :
    contains { start := t.date, finish := next } t = true := by
  refine contains_iff.2 ⟨Int.le_refl _, ?_⟩
  change t.date.number < next.number
  rw [Date.number_of_addDays? h]
  exact Int.lt_add_one_of_le (Int.le_refl _)

end BillingPeriod

end RideLedger
