import RideLedger.Proofs.Civil
import RideLedger.Proofs.Days

/-!
# Months — the calendar, month after month

Months are counted through the years, so that the month after one has the next index. Each begins
where the one before it ends (`Civil.monthStart_succ`), and has 28 to 31 days. So every number is in
one month, and is the number of a day of it: no number is without a day of the calendar
(`Civil.exists_dayNumber`), and the month of a date can be read off its number
(`Date.monthIndex_eq_iff`).
-/

namespace RideLedger

namespace Civil

variable {c : Civil} {k n : Int}

/-! ## Months through the years -/

/-- The month of a day, counted through the years. -/
def monthIndex (c : Civil) : Int := c.year * 12 + c.month

/-- The first day of a month. -/
def ofMonth (k : Int) : Civil :=
  { year := (k - 1) / 12, month := ((k - 1) % 12 + 1).toNat, day := 1 }

/-- The number of the first day of a month. -/
def monthStart (k : Int) : Int := (ofMonth k).dayNumber

/-- The number of days of a month. -/
def monthLength (k : Int) : Nat := daysInMonth (ofMonth k).year (ofMonth k).month

theorem ofMonth_range (k : Int) : 1 ≤ (ofMonth k).month ∧ (ofMonth k).month ≤ 12 := by
  simp only [ofMonth]
  omega

theorem valid_ofMonth (k : Int) : (ofMonth k).valid = true := valid_first _ (ofMonth_range k)

theorem monthIndex_ofMonth (k : Int) : (ofMonth k).monthIndex = k := by
  simp only [ofMonth, monthIndex]
  omega

theorem ofMonth_monthIndex (h : c.valid = true) : ofMonth c.monthIndex = { c with day := 1 } := by
  obtain ⟨⟨hfirst, hlast⟩, -⟩ := valid_iff.1 h
  simp only [ofMonth, monthIndex]
  congr 1 <;> omega

theorem monthLength_range (k : Int) : 28 ≤ monthLength k ∧ monthLength k ≤ 31 := by
  unfold monthLength daysInMonth
  split <;> split <;> decide

/-! ## One after another -/

/-- Every month but February has the days by which the days from the first of March go on. -/
theorem daysInMonth_eq (h : 1 ≤ c.month ∧ c.month ≤ 12) (hfebruary : c.month ≠ 2) :
    (153 * c.monthsFromMarch + 2) / 5 + daysInMonth c.year c.month =
      (153 * (c.monthsFromMarch + 1) + 2) / 5 := by
  obtain ⟨year, month, day⟩ := c
  obtain ⟨hfirst, hlast⟩ : 1 ≤ month ∧ month ≤ 12 := h
  have hlength : daysInMonth year month =
      if month = 4 ∨ month = 6 ∨ month = 9 ∨ month = 11 then 30 else 31 := if_neg hfebruary
  simp only [monthsFromMarch, hlength]
  interval_cases month
  case «2» => exact absurd rfl hfebruary
  all_goals decide

/-- March begins after the last day of February, which is the leap day of a leap year. -/
theorem dayNumber_march (year : Int) :
    dayNumber { year := year, month := 3, day := 1 } =
      dayNumber { year := year, month := 2, day := 1 } + daysInMonth year 2 := by
  have hfebruary : daysInMonth year 2 = if isLeapYear year then 29 else 28 := rfl
  have hdays : (daysInMonth year 2 = 29 ∧ year % 4 = 0 ∧ (year % 100 ≠ 0 ∨ year % 400 = 0)) ∨
      (daysInMonth year 2 = 28 ∧ ¬(year % 4 = 0 ∧ (year % 100 ≠ 0 ∨ year % 400 = 0))) := by
    rw [hfebruary, ← isLeapYear_iff]
    by_cases hleap : isLeapYear year = true
    · exact .inl ⟨if_pos hleap, hleap⟩
    · exact .inr ⟨if_neg hleap, hleap⟩
  have hbefore : marchYear { year := year, month := 2, day := 1 } = year - 1 := rfl
  have hafter : marchYear { year := year, month := 3, day := 1 } = year := rfl
  simp only [dayNumber_eq, hbefore, hafter, daysFromMarch, monthsFromMarch, dayOfCycle, cycleDays]
  omega

theorem dayNumber_nextMonth {year : Int} {month : Nat} (hfirst : 1 ≤ month) (hlast : month < 12) :
    dayNumber { year := year, month := month + 1, day := 1 } =
      dayNumber { year := year, month := month, day := 1 } + daysInMonth year month := by
  by_cases hfebruary : month = 2
  · rw [hfebruary]
    exact dayNumber_march year
  · have hdays := daysInMonth_eq (c := { year := year, month := month, day := 1 })
      ⟨hfirst, hlast.le⟩ hfebruary
    have hyear : marchYear { year := year, month := month + 1, day := 1 } =
        marchYear { year := year, month := month, day := 1 } := by
      simp only [marchYear]
      split <;> split <;> omega
    have hmonth : monthsFromMarch { year := year, month := month + 1, day := 1 } =
        monthsFromMarch { year := year, month := month, day := 1 } + 1 := by
      simp only [monthsFromMarch]
      omega
    simp only [dayNumber_eq, hyear, hmonth, dayOfCycle, daysFromMarch] at hdays ⊢
    omega

/-- January begins after the last of December. -/
theorem dayNumber_nextYear (year : Int) :
    dayNumber { year := year + 1, month := 1, day := 1 } =
      dayNumber { year := year, month := 12, day := 1 } + 31 := by
  have hdecember : marchYear { year := year, month := 12, day := 1 } = year := rfl
  have hjanuary : marchYear { year := year + 1, month := 1, day := 1 } = year :=
    Int.add_sub_cancel ..
  simp only [dayNumber_eq, hdecember, hjanuary, daysFromMarch, monthsFromMarch, dayOfCycle]
  omega

/-- **A month begins where the one before it ends.** -/
theorem monthStart_succ (k : Int) : monthStart (k + 1) = monthStart k + monthLength k := by
  have hmonth := ofMonth_range k
  by_cases hlast : (ofMonth k).month = 12
  · have hnext : ofMonth (k + 1) = { year := (ofMonth k).year + 1, month := 1, day := 1 } := by
      simp only [ofMonth] at hlast ⊢
      congr 1 <;> omega
    have hown : ofMonth k = { year := (ofMonth k).year, month := 12, day := 1 } := by
      rw [← hlast]
      rfl
    rw [monthStart, monthStart, hnext, dayNumber_nextYear, ← hown, monthLength, hlast]
    rfl
  · have hnext : ofMonth (k + 1) =
        { year := (ofMonth k).year, month := (ofMonth k).month + 1, day := 1 } := by
      simp only [ofMonth] at hlast ⊢
      congr 1 <;> omega
    rw [monthStart, monthStart, hnext, dayNumber_nextMonth hmonth.1 (by omega), monthLength]
    rfl

/-- So months begin in their order. -/
theorem monthStart_lt_iff {k l : Int} : monthStart k < monthStart l ↔ k < l := by
  have hmono : StrictMono monthStart := by
    refine strictMono_int_of_lt_succ fun k => ?_
    have := monthLength_range k
    rw [monthStart_succ]
    omega
  exact hmono.lt_iff_lt

theorem monthStart_le_iff {k l : Int} : monthStart k ≤ monthStart l ↔ k ≤ l := by
  rw [← Int.not_lt, ← Int.not_lt, monthStart_lt_iff]

/-- **Every number is in one month.** -/
theorem exists_month (n : Int) : ∃ k, monthStart k ≤ n ∧ n < monthStart (k + 1) := by
  -- by induction on the number, from 1970-01-01 on and back
  induction n with
  | zero => exact ⟨23641, by decide, by decide⟩
  | succ n ih =>
    obtain ⟨k, hstart, hnext⟩ := ih
    by_cases hlast : (n : Int) + 1 < monthStart (k + 1)
    · exact ⟨k, by omega, hlast⟩
    · have hlength := monthLength_range (k + 1)
      have := monthStart_succ (k + 1)
      exact ⟨k + 1, by omega, by omega⟩
  | pred n ih =>
    obtain ⟨k, hstart, hnext⟩ := ih
    by_cases hfirst : monthStart k ≤ -(n : Int) - 1
    · exact ⟨k, hfirst, by omega⟩
    · have hlength := monthLength_range (k - 1)
      have := monthStart_succ (k - 1)
      rw [Int.sub_add_cancel] at this
      exact ⟨k - 1, by omega, by rw [Int.sub_add_cancel]; omega⟩

/-! ## Every number is a day -/

/-- The number of a day is found from its month. -/
theorem dayNumber_eq_monthStart (h : c.valid = true) :
    c.dayNumber = monthStart c.monthIndex + (c.day - 1) := by
  rw [monthStart, ofMonth_monthIndex h, dayNumber_eq, dayNumber_eq]
  have hyear : marchYear { c with day := 1 } = c.marchYear := rfl
  have hdays : daysFromMarch { c with day := 1 } = c.daysFromMarch - (c.day - 1) := by
    simp only [daysFromMarch, monthsFromMarch]
    omega
  rw [hyear, hdays, dayOfCycle, dayOfCycle]
  omega

/-- A day lies in its month. -/
theorem monthStart_le_dayNumber (h : c.valid = true) :
    monthStart c.monthIndex ≤ c.dayNumber ∧ c.dayNumber < monthStart (c.monthIndex + 1) := by
  obtain ⟨-, hfirst, hlast⟩ := valid_iff.1 h
  have hlength : monthLength c.monthIndex = daysInMonth c.year c.month := by
    rw [monthLength, ofMonth_monthIndex h]
  rw [monthStart_succ, hlength, dayNumber_eq_monthStart h]
  omega

/-- **Every number is the number of a day of the calendar.** -/
theorem exists_dayNumber (n : Int) : ∃ c : Civil, c.valid = true ∧ c.dayNumber = n := by
  obtain ⟨k, hstart, hnext⟩ := exists_month n
  rw [monthStart_succ] at hnext
  have hvalid : valid { ofMonth k with day := (n - monthStart k + 1).toNat } = true :=
    valid_iff.2 ⟨ofMonth_range k, by simp only; omega, by
      simp only [monthLength] at hnext ⊢; omega⟩
  refine ⟨_, hvalid, ?_⟩
  have hmonth : monthIndex { ofMonth k with day := (n - monthStart k + 1).toNat } = k :=
    monthIndex_ofMonth k
  rw [dayNumber_eq_monthStart hvalid, hmonth]
  simp only
  omega

theorem valid_ofDayNumber (n : Int) : (ofDayNumber n).valid = true := by
  obtain ⟨c, hvalid, rfl⟩ := exists_dayNumber n
  rw [ofDayNumber_dayNumber hvalid]
  exact hvalid

/-- **The number of a day is found again.** -/
theorem dayNumber_ofDayNumber (n : Int) : (ofDayNumber n).dayNumber = n := by
  obtain ⟨c, hvalid, rfl⟩ := exists_dayNumber n
  rw [ofDayNumber_dayNumber hvalid]

end Civil

namespace Date

open Civil

variable {d : Date} {k : Int}

theorem valid_civil (d : Date) : d.civil.valid = true := valid_ofDayNumber d.number

theorem dayNumber_civil (d : Date) : d.civil.dayNumber = d.number := dayNumber_ofDayNumber d.number

/-- **A date is read back from its year, month and day.** -/
theorem ofCivil?_civil (d : Date) : ofCivil? d.civil = some d := by
  rw [ofCivil?, if_pos d.valid_civil, dayNumber_civil, ofNumber?_eq_some_iff]

/-- The month of a date, counted through the years. -/
def monthIndex (d : Date) : Int := d.year * 12 + d.month

/-- **The month of a date is the one that its number lies in.** -/
theorem monthIndex_eq_iff :
    d.monthIndex = k ↔ monthStart k ≤ d.number ∧ d.number < monthStart (k + 1) := by
  have hown := monthStart_le_dayNumber d.valid_civil
  rw [dayNumber_civil] at hown
  constructor
  · rintro rfl
    exact hown
  · rintro ⟨hstart, hnext⟩
    have hlow := monthStart_lt_iff.1 (hown.1.trans_lt hnext)
    have hhigh := monthStart_lt_iff.1 (hstart.trans_lt hown.2)
    exact Int.le_antisymm (Int.lt_add_one_iff.1 hlow) (Int.lt_add_one_iff.1 hhigh)

/-! ## The first days of months -/

/-- The month of the first date. -/
abbrev firstMonth : Int := -262143 * 12 + 1

theorem monthStart_firstMonth : monthStart firstMonth = firstDay := by decide

/-- No date is of an earlier month. -/
theorem firstMonth_le (d : Date) : firstMonth ≤ d.monthIndex := by
  obtain ⟨-, hnext⟩ := monthIndex_eq_iff.1 (rfl : d.monthIndex = d.monthIndex)
  have hfirst := monthStart_firstMonth.trans_le d.first_le
  exact Int.lt_add_one_iff.1 (monthStart_lt_iff.1 (hfirst.trans_lt hnext))

theorem ofCivil?_ofMonth (k : Int) : ofCivil? (ofMonth k) = ofNumber? (monthStart k) :=
  if_pos (valid_ofMonth k)

/-- **The first day of a date's month.** -/
theorem monthStart?_eq (d : Date) : d.monthStart? = ofNumber? (monthStart d.monthIndex) := by
  rw [monthStart?, ← ofMonth_monthIndex d.valid_civil, ofCivil?_ofMonth]
  rfl

/-- **And that of the month before**, which is in the year before for a January. -/
theorem previousMonthStart?_eq (d : Date) :
    d.previousMonthStart? = ofNumber? (monthStart (d.monthIndex - 1)) := by
  obtain ⟨⟨hfirst, hlast⟩, -⟩ := valid_iff.1 d.valid_civil
  have hindex : d.monthIndex = d.civil.year * 12 + d.civil.month := rfl
  rw [previousMonthStart?, ← ofCivil?_ofMonth, hindex]
  split
  · next hjanuary =>
    congr 1
    simp only [ofMonth]
    congr 1 <;> omega
  · congr 1
    simp only [ofMonth]
    congr 1 <;> omega

end Date

end RideLedger
