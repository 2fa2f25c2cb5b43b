import Mathlib.Tactic.IntervalCases
import RideLedger.Calendar.Date

/-!
# Calendar days — the day of a number, and the number of a day

The number of a day is computed from its year, month and day of month, and they are computed from
it. A year begins in March, so that its last day is the leap day, if it has one, and a cycle of four
hundred years begins on the first of a March. What has to be shown is that the quotients that find
the year of a day in its cycle count exactly the leap days before it (`InYear.year_eq`), and that
the one that finds its month counts the days of the months (`monthsFromMarch_eq`). So every day of
the calendar is found by its number (`ofDayNumber_dayNumber`), and in the years that dates have it
is the day of a date (`Date.exists_civil`).
-/

namespace RideLedger

namespace Civil

variable {c : Civil} {y doy : Int}

/-! ## Years of the cycle -/

/-- The day of a cycle, from a year of the cycle and a day of that year. -/
def dayOfCycle (year doy : Int) : Int := year * 365 + year / 4 - year / 100 + doy

/-- A year of a cycle that begins in March has 365 days, and one more if the year that it ends in
is a leap year. -/
structure InYear (year doy : Int) : Prop where
  year_nonneg : 0 ≤ year
  year_lt : year < 400
  day_nonneg : 0 ≤ doy
  day_le : doy ≤ 364 ∨ doy = 365 ∧ year % 4 = 3 ∧ (year % 100 ≠ 99 ∨ year = 399)

/-- **The year of a day of the cycle.** The quotients count the leap days that went before. -/
theorem InYear.year_eq (h : InYear y doy) :
    (dayOfCycle y doy - dayOfCycle y doy / 1460 + dayOfCycle y doy / 36524 -
      dayOfCycle y doy / 146096) / 365 = y := by
  obtain ⟨hlow, hhigh, hday, hlast⟩ := h
  have hdef : dayOfCycle y doy = y * 365 + y / 4 - y / 100 + doy := rfl
  generalize dayOfCycle y doy = day at hdef ⊢
  rcases hlast with hshort | ⟨rfl, hleap, hcentury⟩
  · have hcenturies : day / 36524 = y / 100 := by omega
    have hcycles : day / 146096 = 0 := by omega
    have hleaps : day / 1460 = y / 4 ∨ day / 1460 = y / 4 + 1 ∧ 1 ≤ doy := by omega
    omega
  · have hleaps : day / 1460 = y / 4 + 1 := by omega
    rcases hcentury with hcentury | rfl
    · have hcenturies : day / 36524 = y / 100 := by omega
      have hcycles : day / 146096 = 0 := by omega
      omega
    · omega

/-- The days of a cycle are its first 146097. -/
theorem InYear.range (h : InYear y doy) : 0 ≤ dayOfCycle y doy ∧ dayOfCycle y doy < 146097 := by
  obtain ⟨hlow, hhigh, hday, hlast⟩ := h
  rw [dayOfCycle]
  omega

/-! ## Days of the calendar -/

/-- The year that a day belongs to when years begin in March. -/
def marchYear (c : Civil) : Int := if c.month ≤ 2 then c.year - 1 else c.year

/-- The months from March to a day's own. -/
def monthsFromMarch (c : Civil) : Int := ((c.month : Int) + 9) % 12

/-- The days from the first of March to a day. -/
def daysFromMarch (c : Civil) : Int := (153 * c.monthsFromMarch + 2) / 5 + c.day - 1

theorem dayNumber_eq (c : Civil) :
    c.dayNumber = c.marchYear / 400 * cycleDays +
      dayOfCycle (c.marchYear % 400) c.daysFromMarch - epochShift := rfl

/-- What it is to be a day of the calendar. -/
theorem valid_iff : c.valid = true ↔
    (1 ≤ c.month ∧ c.month ≤ 12) ∧ 1 ≤ c.day ∧ c.day ≤ daysInMonth c.year c.month := by
  simp only [valid, Bool.and_eq_true, decide_eq_true_eq, and_assoc]

theorem isLeapYear_iff {year : Int} :
    isLeapYear year = true ↔ year % 4 = 0 ∧ (year % 100 ≠ 0 ∨ year % 400 = 0) := by
  simp [isLeapYear]

/-- Every month has a first day. -/
theorem valid_first (year : Int) {month : Nat} (h : 1 ≤ month ∧ month ≤ 12) :
    valid { year := year, month := month, day := 1 } = true := by
  have hdays : 1 ≤ daysInMonth year month := by
    unfold daysInMonth
    split <;> split <;> decide
  exact valid_iff.2 ⟨h, Nat.le_refl 1, hdays⟩

/-- The months have 31, 30 or 28 days, and one more in the February of a leap year. -/
theorem day_le_of_valid (h : c.valid = true) :
    c.day ≤ 31 ∧ (c.month = 4 ∨ c.month = 6 ∨ c.month = 9 ∨ c.month = 11 → c.day ≤ 30) ∧
      (c.month = 2 → c.day ≤ 28 ∨
        c.day = 29 ∧ c.year % 4 = 0 ∧ (c.year % 100 ≠ 0 ∨ c.year % 400 = 0)) := by
  obtain ⟨-, -, hdays⟩ := valid_iff.1 h
  unfold daysInMonth at hdays
  split at hdays
  · split at hdays
    · next hleap =>
      have := isLeapYear_iff.1 hleap
      omega
    · omega
  · split at hdays <;> omega

/-- A day lies in its year. -/
theorem inYear_of_valid (h : c.valid = true) : InYear (c.marchYear % 400) c.daysFromMarch := by
  obtain ⟨⟨hfirst, hlast⟩, hday, -⟩ := valid_iff.1 h
  obtain ⟨hlong, -, hfebruary⟩ := day_le_of_valid h
  refine ⟨Int.emod_nonneg _ (by decide), Int.emod_lt_of_pos _ (by decide), ?_, ?_⟩
  · unfold daysFromMarch monthsFromMarch
    omega
  · by_cases hmonth : c.month = 2
    · have := hfebruary hmonth
      unfold daysFromMarch monthsFromMarch marchYear
      rw [hmonth]
      omega
    · refine .inl ?_
      unfold daysFromMarch monthsFromMarch
      omega

/-- The month of a day of the year. -/
theorem monthsFromMarch_eq (h : c.valid = true) :
    (5 * c.daysFromMarch + 2) / 153 = c.monthsFromMarch := by
  obtain ⟨⟨hfirst, hlast⟩, hday, -⟩ := valid_iff.1 h
  obtain ⟨hlong, hshort, hfebruary⟩ := day_le_of_valid h
  unfold daysFromMarch monthsFromMarch
  interval_cases c.month <;> omega

/-- The month that a year's months from March lead to. -/
theorem month_of_monthsFromMarch (h : c.valid = true) :
    (if c.monthsFromMarch < 10 then c.monthsFromMarch + 3 else c.monthsFromMarch - 9) =
      c.month := by
  obtain ⟨⟨hfirst, hlast⟩, -⟩ := valid_iff.1 h
  unfold monthsFromMarch
  omega

/-- **A day of the calendar is found by its number.** -/
theorem ofDayNumber_dayNumber (h : c.valid = true) : ofDayNumber c.dayNumber = c := by
  have hin := inYear_of_valid h
  have hrange := hin.range
  have hshift : c.dayNumber + epochShift =
      c.marchYear / 400 * cycleDays + dayOfCycle (c.marchYear % 400) c.daysFromMarch := by
    rw [dayNumber_eq]
    omega
  have hcycle : (c.dayNumber + epochShift) % cycleDays =
      dayOfCycle (c.marchYear % 400) c.daysFromMarch := by
    rw [hshift, cycleDays]
    omega
  have hcycles : (c.dayNumber + epochShift) / cycleDays = c.marchYear / 400 := by
    rw [hshift, cycleDays]
    omega
  have hyear := hin.year_eq
  have hmonth := monthsFromMarch_eq h
  have hday : dayOfCycle (c.marchYear % 400) c.daysFromMarch -
      (365 * (c.marchYear % 400) + c.marchYear % 400 / 4 - c.marchYear % 400 / 100) =
        c.daysFromMarch := by
    rw [dayOfCycle]
    omega
  simp only [ofDayNumber, hcycle, hcycles, hyear, hday, hmonth, month_of_monthsFromMarch h]
  obtain ⟨⟨hfirst, hlast⟩, hfirstDay, -⟩ := valid_iff.1 h
  show _ = Civil.mk c.year c.month c.day
  congr 1
  · unfold marchYear
    omega
  · unfold daysFromMarch
    omega

/-- The years of the range, day by day. -/
theorem dayNumber_range (h : c.valid = true) (hfirst : -262143 ≤ c.year) (hlast : c.year ≤ 262142) :
    firstDay ≤ c.dayNumber ∧ c.dayNumber ≤ lastDay := by
  obtain ⟨hmonth, hday, -⟩ := valid_iff.1 h
  obtain ⟨hlong, -⟩ := day_le_of_valid h
  -- the first two months of the range and its last ten have a year of their own
  have hyear : c.marchYear = -262144 ∧ c.month ≤ 2 ∨
      -262143 ≤ c.marchYear ∧ c.marchYear ≤ 262141 ∨ c.marchYear = 262142 ∧ 3 ≤ c.month := by
    unfold marchYear
    omega
  rw [dayNumber_eq]
  unfold daysFromMarch monthsFromMarch dayOfCycle
  unfold firstDay lastDay cycleDays epochShift
  rcases hyear with ⟨hyear, hmonths⟩ | hyear | ⟨hyear, hmonths⟩
  · rw [hyear]
    omega
  · omega
  · rw [hyear]
    omega

end Civil

/-- **Every day of the calendar is the day of a date**, in the years that dates have. -/
theorem Date.exists_civil {c : Civil} (h : c.valid = true) (hfirst : -262143 ≤ c.year)
    (hlast : c.year ≤ 262142) : ∃ d, Date.ofCivil? c = some d ∧ d.civil = c := by
  have hrange := Civil.dayNumber_range h hfirst hlast
  refine ⟨{ number := c.dayNumber, first_le := hrange.1, le_last := hrange.2 }, ?_,
    Civil.ofDayNumber_dayNumber h⟩
  rw [ofCivil?, if_pos h, ofNumber?, dif_pos hrange]

end RideLedger
