import RideLedger.BillingError
import RideLedger.Proofs.Months

/-!
# Schedules — the periods of runs tile time

A run on a day bills the day before, the seven days before, or the month before. By the numbers of
days, each of these is a stretch from a first day up to an end (`firstBilled`, `endBilled`), and
there is a period for it unless its first day would lie before all dates
(`periodEndingBefore_eq_ok_iff`). So an instant is billed by the runs of one day, by those of one
day among the Mondays, and by those of one month (`InvoiceFrequency.Tiled`): a schedule bills
nothing twice, and leaves nothing out.
-/

namespace RideLedger

open Civil (monthStart)

namespace InvoiceFrequency

variable {f : InvoiceFrequency} {d : Date} {t asOf : Instant} {p : BillingPeriod}

/-! ## What a run bills -/

/-- The number of the first day that a run bills. -/
def firstBilled (f : InvoiceFrequency) (d : Date) : Int :=
  match f with
  | .perRide => d.number
  | .daily => d.number - 1
  | .weekly => d.number - 7
  | .monthly => monthStart (d.monthIndex - 1)

/-- The number of the day after the last one that a run bills. -/
def endBilled (f : InvoiceFrequency) (d : Date) : Int :=
  match f with
  | .perRide | .daily | .weekly => d.number
  | .monthly => monthStart d.monthIndex

/-- A run bills days that are over. -/
theorem endBilled_le (f : InvoiceFrequency) (d : Date) : f.endBilled d ≤ d.number := by
  cases f with
  | monthly => exact (Date.monthIndex_eq_iff.1 rfl).1
  | perRide | daily | weekly => exact Int.le_refl _

/-- It bills at least one. -/
theorem firstBilled_lt (h : f.isScheduled = true) (d : Date) : f.firstBilled d < f.endBilled d := by
  cases f with
  | perRide => cases h
  | daily | weekly => exact Int.sub_lt_self _ (by decide)
  | monthly => exact Civil.monthStart_lt_iff.2 (Int.sub_lt_self _ (by decide))

/-- What it bills ends with a date. -/
theorem exists_finish (f : InvoiceFrequency) (d : Date) :
    ∃ finish : Date, finish.number = f.endBilled d := by
  cases f with
  | monthly =>
    have hfirst : firstDay ≤ monthStart d.monthIndex := by
      rw [← Date.monthStart_firstMonth]
      exact Civil.monthStart_le_iff.2 d.firstMonth_le
    have hle := (endBilled_le .monthly d).trans d.le_last
    exact ⟨{ number := monthStart d.monthIndex, first_le := hfirst, le_last := hle }, rfl⟩
  | perRide | daily | weekly => exact ⟨d, rfl⟩

/-- The period of a run is put together from its first day. -/
theorem periodBefore?_eq {finish : Date} (h : f.isScheduled = true)
    (hfinish : finish.number = f.endBilled d) :
    f.periodBefore? d = some (do
      let start ← BillingPeriod.orOutOfRange d (Date.ofNumber? (f.firstBilled d))
      BillingPeriod.new start finish) := by
  cases f with
  | perRide => cases h
  | daily | weekly =>
    obtain rfl := Date.number_inj.1 hfinish
    rfl
  | monthly =>
    have hmonth : d.monthStart? = some finish :=
      d.monthStart?_eq.trans (Date.ofNumber?_eq_some_iff.2 hfinish)
    rw [periodBefore?, BillingPeriod.previousMonth, hmonth, d.previousMonthStart?_eq]
    rfl

/-- A run whose first day is a date has its period. -/
theorem periodEndingBefore_of_dates {start finish : Date} (h : f.isScheduled = true)
    (hstart : start.number = f.firstBilled asOf.date)
    (hfinish : finish.number = f.endBilled asOf.date) :
    f.periodEndingBefore asOf = .ok { start := start, finish := finish } := by
  have hle : start ≤ finish := by
    change start.number ≤ finish.number
    rw [hstart, hfinish]
    exact (firstBilled_lt h asOf.date).le
  have hnew : BillingPeriod.new start finish = .ok { start := start, finish := finish } :=
    BillingPeriod.new_eq_ok_iff.2 ⟨hle, rfl⟩
  rw [periodEndingBefore, periodBefore?_eq h hfinish, Date.ofNumber?_eq_some_iff.2 hstart]
  simp only [BillingPeriod.orOutOfRange, bind, Except.bind, hnew]

/-- A run whose first day would lie before all dates has none. -/
theorem periodEndingBefore_of_lt (h : f.isScheduled = true)
    (hlt : f.firstBilled asOf.date < firstDay) :
    f.periodEndingBefore asOf = .error (.validation (.period (.outOfRange asOf.date.toText))) := by
  obtain ⟨finish, hfinish⟩ := f.exists_finish asOf.date
  rw [periodEndingBefore, periodBefore?_eq h hfinish, Date.ofNumber?_eq_none_iff.2 (.inl hlt)]
  rfl

/-- Every run has its period or lies too early for it. -/
theorem periodEndingBefore_cases (h : f.isScheduled = true) (asOf : Instant) :
    (∃ start finish : Date, start.number = f.firstBilled asOf.date ∧
      finish.number = f.endBilled asOf.date ∧
      f.periodEndingBefore asOf = .ok { start := start, finish := finish }) ∨
    f.firstBilled asOf.date < firstDay ∧
      f.periodEndingBefore asOf =
        .error (.validation (.period (.outOfRange asOf.date.toText))) := by
  by_cases hlt : f.firstBilled asOf.date < firstDay
  · exact .inr ⟨hlt, periodEndingBefore_of_lt h hlt⟩
  · obtain ⟨finish, hfinish⟩ := f.exists_finish asOf.date
    have hle : f.firstBilled asOf.date ≤ lastDay := by
      have := firstBilled_lt h asOf.date
      have := f.endBilled_le asOf.date
      have := asOf.date.le_last
      omega
    exact .inl ⟨{ number := _, first_le := Int.not_lt.1 hlt, le_last := hle }, finish, rfl, hfinish,
      periodEndingBefore_of_dates h rfl hfinish⟩

/-- **The period of a run**, by its first day and its end. -/
theorem periodEndingBefore_eq_ok_iff (h : f.isScheduled = true) :
    f.periodEndingBefore asOf = .ok p ↔
      p.start.number = f.firstBilled asOf.date ∧ p.finish.number = f.endBilled asOf.date := by
  refine ⟨fun hok => ?_, fun hdays => periodEndingBefore_of_dates h hdays.1 hdays.2⟩
  rcases periodEndingBefore_cases h asOf with ⟨start, finish, hstart, hfinish, hperiod⟩ | ⟨-, hnone⟩
  · obtain rfl := Except.ok.inj (hperiod.symm.trans hok)
    exact ⟨hstart, hfinish⟩
  · rw [hnone] at hok
    cases hok

/-- A run that has a period is on schedule. -/
theorem isScheduled_of_ok (hok : f.periodEndingBefore asOf = .ok p) : f.isScheduled = true := by
  cases f with
  | perRide => cases hok
  | daily | weekly | monthly => rfl

/-! ## Which runs bill an instant -/

/-- The runs of a day, at whatever time, bill an instant. -/
def Bills (f : InvoiceFrequency) (d : Date) (t : Instant) : Prop :=
  ∀ asOf : Instant, asOf.date = d → ∃ p, f.periodEndingBefore asOf = .ok p ∧ p.contains t = true

/-- **What the runs of a day bill**, by the numbers of the days. -/
theorem bills_iff (h : f.isScheduled = true) : f.Bills d t ↔
    firstDay ≤ f.firstBilled d ∧ f.firstBilled d ≤ t.date.number ∧
      t.date.number < f.endBilled d := by
  constructor
  · intro hbills
    obtain ⟨p, hperiod, hin⟩ := hbills d.midnight d.date_midnight
    obtain ⟨hstart, hfinish⟩ := (periodEndingBefore_eq_ok_iff h).1 hperiod
    rw [Date.date_midnight] at hstart hfinish
    obtain ⟨hlow, hhigh⟩ := BillingPeriod.contains_iff.1 hin
    exact ⟨hstart ▸ p.start.first_le, hstart ▸ hlow, hfinish ▸ hhigh⟩
  · rintro ⟨hfirst, hlow, hhigh⟩ asOf rfl
    rcases periodEndingBefore_cases h asOf with ⟨start, finish, hstart, hfinish, hperiod⟩ | ⟨hlt, -⟩
    · refine ⟨_, hperiod, BillingPeriod.contains_iff.2 ⟨?_, ?_⟩⟩
      · change start.number ≤ t.date.number
        rwa [hstart]
      · change t.date.number < finish.number
        rwa [hfinish]
    · exact absurd hfirst (Int.not_le.2 hlt)

/-- **An instant is billed on the next day**, by daily runs. -/
theorem bills_daily_iff : daily.Bills d t ↔ d.number = t.date.number + 1 := by
  have hfirst := t.date.first_le
  rw [bills_iff rfl, firstBilled, endBilled]
  omega

/-- By weekly runs it is billed on the seven days that follow. -/
theorem bills_weekly_iff : weekly.Bills d t ↔
    firstDay + 7 ≤ d.number ∧ t.date.number < d.number ∧ d.number ≤ t.date.number + 7 := by
  rw [bills_iff rfl, firstBilled, endBilled]
  omega

/-- **By monthly runs it is billed on the days of the next month.** -/
theorem bills_monthly_iff : monthly.Bills d t ↔ d.monthIndex = t.date.monthIndex + 1 := by
  have hmonth : t.date.monthIndex = d.monthIndex - 1 ↔
      monthStart (d.monthIndex - 1) ≤ t.date.number ∧ t.date.number < monthStart d.monthIndex := by
    rw [Date.monthIndex_eq_iff, Int.sub_add_cancel]
  rw [bills_iff rfl, firstBilled, endBilled, ← hmonth]
  constructor
  · rintro ⟨-, hindex⟩
    omega
  · intro hindex
    refine ⟨?_, by omega⟩
    rw [← Date.monthStart_firstMonth]
    have := t.date.firstMonth_le
    exact Civil.monthStart_le_iff.2 (by omega)

end InvoiceFrequency

/-- The day of the week, counted from Monday. -/
def Date.weekday (d : Date) : Fin 7 := ⟨((d.number + 3) % 7).toNat, by omega⟩

namespace InvoiceFrequency

variable {f : InvoiceFrequency} {d : Date} {t asOf : Instant} {p : BillingPeriod}
  {x : BillingError}

/-- Away from the last day, there is a next day. -/
theorem existsUnique_bills_daily (hlast : t.date.number < lastDay) : ∃! d, daily.Bills d t := by
  have hfirst := t.date.first_le
  refine ⟨{ number := t.date.number + 1, first_le := by omega, le_last := by omega },
    bills_daily_iff.2 rfl, fun d hd => Date.number_inj.1 (bills_daily_iff.1 hd)⟩

/-- **Among the days of any weekday, one bills an instant weekly.** -/
theorem existsUnique_bills_weekly (hfirst : firstDay + 6 ≤ t.date.number)
    (hlast : t.date.number + 7 ≤ lastDay) (weekday : Fin 7) :
    ∃! d : Date, d.weekday = weekday ∧ weekly.Bills d t := by
  have hweekday (d : Date) : d.weekday = weekday ↔ (d.number + 3) % 7 = (weekday : Nat) := by
    simp only [Date.weekday, Fin.ext_iff]
    omega
  -- the first such day after the instant's own
  obtain ⟨n, hafter, hweek, hn⟩ : ∃ n : Int, t.date.number < n ∧ n ≤ t.date.number + 7 ∧
      (n + 3) % 7 = (weekday : Nat) := by
    have := weekday.isLt
    exact ⟨t.date.number + 1 + ((weekday : Nat) - (t.date.number + 4)) % 7, by omega, by omega,
      by omega⟩
  refine ⟨{ number := n, first_le := by omega, le_last := by omega },
    ⟨(hweekday _).2 hn, bills_weekly_iff.2 ⟨by change firstDay + 7 ≤ n; omega, hafter, hweek⟩⟩,
    fun d hd => Date.number_inj.1 ?_⟩
  change d.number = n
  obtain ⟨hday, hbills⟩ := hd
  rw [hweekday] at hday
  rw [bills_weekly_iff] at hbills
  omega

/-! ## The tiling -/

/-- The numbers of days that a run can bill. -/
def Spans : InvoiceFrequency → Int → Prop
  | .perRide, _ => False
  | .daily, days => days = 1
  | .weekly, days => days = 7
  | .monthly, days => 28 ≤ days ∧ days ≤ 31

/-- The days of the calendar that pass before runs have periods. -/
def reach : InvoiceFrequency → Int
  | .perRide => 0
  | .daily => 1
  | .weekly => 7
  | .monthly => 31

/-- The period of a run is as long as its name says. -/
theorem spans_days (hok : f.periodEndingBefore asOf = .ok p) : f.Spans p.days := by
  obtain ⟨hstart, hfinish⟩ := (periodEndingBefore_eq_ok_iff (isScheduled_of_ok hok)).1 hok
  rw [BillingPeriod.days, hstart, hfinish]
  cases f with
  | perRide => cases hok
  | daily | weekly => exact Int.sub_sub_self _ _
  | monthly =>
    have hlength := Civil.monthLength_range (asOf.date.monthIndex - 1)
    have hnext := Civil.monthStart_succ (asOf.date.monthIndex - 1)
    rw [Int.sub_add_cancel] at hnext
    simp only [Spans, firstBilled, endBilled]
    omega

/-- It is over when the day of the run begins. -/
theorem not_contains_of_midnight_le (hok : f.periodEndingBefore asOf = .ok p)
    (hle : asOf.date.midnight ≤ t) : p.contains t = false := by
  obtain ⟨-, hfinish⟩ := (periodEndingBefore_eq_ok_iff (isScheduled_of_ok hok)).1 hok
  have hover := f.endBilled_le asOf.date
  have hday : asOf.date.number ≤ t.date.number := Date.midnight_le_iff.1 hle
  refine Bool.eq_false_iff.2 fun hin => ?_
  have hbefore : t.date.number < p.finish.number := (BillingPeriod.contains_iff.1 hin).2
  omega

/-- The first day of a run lies before all dates just on the first days. -/
theorem firstBilled_lt_firstDay_iff (h : f.isScheduled = true) :
    f.firstBilled d < firstDay ↔ d.number < firstDay + f.reach := by
  cases f with
  | perRide => cases h
  | daily | weekly => exact Int.sub_lt_iff
  | monthly =>
    -- the second month begins 31 days after the first
    have hsecond : firstDay + 31 = monthStart (Date.firstMonth + 1) := by decide
    have hmonth : d.number < monthStart (Date.firstMonth + 1) ↔ d.monthIndex = Date.firstMonth := by
      rw [Date.monthIndex_eq_iff, Date.monthStart_firstMonth, and_iff_right d.first_le]
    have hfirst := d.firstMonth_le
    rw [firstBilled, reach, hsecond, hmonth, ← Date.monthStart_firstMonth,
      Civil.monthStart_lt_iff]
    omega

/-- A run without a period comes too early for it, and says so. -/
theorem periodEndingBefore_eq_error_iff (h : f.isScheduled = true) :
    f.periodEndingBefore asOf = .error x ↔
      asOf.date.number < firstDay + f.reach ∧
        x = .validation (.period (.outOfRange asOf.date.toText)) := by
  rw [← firstBilled_lt_firstDay_iff h]
  rcases periodEndingBefore_cases h asOf with ⟨start, finish, hstart, -, hok⟩ | ⟨hlt, hnone⟩
  · rw [hok]
    refine iff_of_false (by simp) fun herror => ?_
    have := start.first_le
    omega
  · rw [hnone, and_iff_right hlt, Except.error.injEq, eq_comm]

/-- What runs bill depends on their day only. -/
theorem bills_date_iff :
    f.Bills asOf.date t ↔ ∃ p, f.periodEndingBefore asOf = .ok p ∧ p.contains t = true := by
  refine ⟨fun hbills => hbills asOf rfl, ?_⟩
  rintro ⟨p, hok, hin⟩
  have hscheduled := isScheduled_of_ok hok
  obtain ⟨hstart, hfinish⟩ := (periodEndingBefore_eq_ok_iff hscheduled).1 hok
  obtain ⟨hlow, hhigh⟩ := BillingPeriod.contains_iff.1 hin
  exact (bills_iff hscheduled).2
    ⟨hstart ▸ p.start.first_le, hstart ▸ hlow, hfinish ▸ hhigh⟩

/-! ## Month after month -/

variable {asOf' : Instant} {p' : BillingPeriod}

/-- Monthly runs of one month have the same period. -/
theorem monthly_eq (hok : monthly.periodEndingBefore asOf = .ok p)
    (hok' : monthly.periodEndingBefore asOf' = .ok p')
    (hmonth : asOf'.date.monthIndex = asOf.date.monthIndex) : p' = p := by
  obtain ⟨hstart, hfinish⟩ := (periodEndingBefore_eq_ok_iff rfl).1 hok
  rw [firstBilled, ← hmonth] at hstart
  rw [endBilled, ← hmonth] at hfinish
  have hsame : monthly.periodEndingBefore asOf' = .ok p :=
    (periodEndingBefore_eq_ok_iff rfl).2 ⟨hstart, hfinish⟩
  exact Except.ok.inj (hok'.symm.trans hsame)

/-- The next month's begins where this month's ends. -/
theorem monthly_adjacent (hok : monthly.periodEndingBefore asOf = .ok p)
    (hok' : monthly.periodEndingBefore asOf' = .ok p')
    (hmonth : asOf'.date.monthIndex = asOf.date.monthIndex + 1) : p'.start = p.finish := by
  obtain ⟨-, hfinish⟩ := (periodEndingBefore_eq_ok_iff rfl).1 hok
  obtain ⟨hstart, -⟩ := (periodEndingBefore_eq_ok_iff rfl).1 hok'
  refine Date.number_inj.1 ?_
  rw [hstart, hfinish, firstBilled, endBilled, hmonth, Int.add_sub_cancel]

/-- Those of different months share no instant. -/
theorem monthly_disjoint (hok : monthly.periodEndingBefore asOf = .ok p)
    (hok' : monthly.periodEndingBefore asOf' = .ok p')
    (hmonth : asOf'.date.monthIndex ≠ asOf.date.monthIndex) (hin : p.contains t = true) :
    p'.contains t = false := by
  refine Bool.eq_false_iff.2 fun hin' => hmonth ?_
  have hbills := bills_monthly_iff.1 (bills_date_iff.2 ⟨p, hok, hin⟩)
  have hbills' := bills_monthly_iff.1 (bills_date_iff.2 ⟨p', hok', hin'⟩)
  rw [hbills, hbills']

/-! ## The whole calendar -/

/-- What the period of a run is like, and when there is none. -/
structure Measured (f : InvoiceFrequency) (asOf : Instant) : Prop where
  /-- It has as many days as the frequency says. -/
  spans : ∀ p, f.periodEndingBefore asOf = .ok p → f.Spans p.days
  /-- It is over when the day of the run begins. -/
  finished : ∀ p, f.periodEndingBefore asOf = .ok p →
    ∀ t, asOf.date.midnight ≤ t → p.contains t = false
  /-- Only on the first days of the calendar there is none, for the reason that is given. -/
  outOfRange : f.isScheduled = true → ∀ x, f.periodEndingBefore asOf = .error x ↔
    asOf.date.number < firstDay + f.reach ∧
      x = .validation (.period (.outOfRange asOf.date.toText))

theorem measured (f : InvoiceFrequency) (asOf : Instant) : f.Measured asOf where
  spans _ := spans_days
  finished _ hok _ := not_contains_of_midnight_le hok
  outOfRange hscheduled _ := periodEndingBefore_eq_error_iff hscheduled

/-- On which days the runs of the frequencies bill an instant. -/
structure Tiled (t : Instant) : Prop where
  /-- The time of the day does not matter. -/
  date : ∀ f asOf, Bills f asOf.date t ↔
    ∃ p, f.periodEndingBefore asOf = .ok p ∧ p.contains t = true
  /-- Daily runs bill it on one day, the next one. -/
  daily : t.date.number < lastDay → ∃! d, Bills .daily d t
  nextDay : ∀ d, Bills .daily d t ↔ t.date.addDays? 1 = some d
  /-- Weekly runs bill it on one of the days of any weekday. -/
  weekly : firstDay + 6 ≤ t.date.number → t.date.number + 7 ≤ lastDay →
    ∀ weekday, ∃! d : Date, d.weekday = weekday ∧ Bills .weekly d t
  /-- Monthly runs bill it on the days of the next month. -/
  monthly : ∀ d, Bills .monthly d t ↔ d.monthIndex = t.date.monthIndex + 1

theorem tiled (t : Instant) : Tiled t where
  date _ _ := bills_date_iff
  daily := existsUnique_bills_daily
  nextDay d := by rw [bills_daily_iff, Date.addDays?, Date.ofNumber?_eq_some_iff]
  weekly := existsUnique_bills_weekly
  monthly _ := bills_monthly_iff

/-- How the periods of two monthly runs lie to each other. -/
structure MonthsJoin (asOf asOf' : Instant) (p p' : BillingPeriod) : Prop where
  /-- Those of one month are the same. -/
  same : asOf'.date.monthIndex = asOf.date.monthIndex → p' = p
  /-- That of the next month begins where the first one ends. -/
  adjacent : asOf'.date.monthIndex = asOf.date.monthIndex + 1 → p'.start = p.finish
  /-- Those of different months share no instant. -/
  disjoint : asOf'.date.monthIndex ≠ asOf.date.monthIndex →
    ∀ t, p.contains t = true → p'.contains t = false

theorem monthsJoin (hok : InvoiceFrequency.monthly.periodEndingBefore asOf = .ok p)
    (hok' : InvoiceFrequency.monthly.periodEndingBefore asOf' = .ok p') :
    MonthsJoin asOf asOf' p p' where
  same := monthly_eq hok hok'
  adjacent := monthly_adjacent hok hok'
  disjoint hmonth _ := monthly_disjoint hok hok' hmonth

end InvoiceFrequency

/-- **The periods of scheduled runs tile time.** A period holds the instants of its days. That of a
run is over when the day of the run begins, and has the days that it is named for; only runs of the
first days of the calendar have none, and say that it is out of range. A daily run bills an instant
on the next day, one weekly run does among the days of any weekday, and monthly runs do on the days
of the next month, with one period; the next month's period begins where it ends. -/
theorem scheduledPeriods_tile (start finish : Date) (asOf asOf' t : Instant)
    (f : InvoiceFrequency) :
    (∀ p, BillingPeriod.new start finish = .ok p →
      (p.contains t = true ↔ start ≤ t.date ∧ t.date < finish)) ∧
    f.Measured asOf ∧ InvoiceFrequency.Tiled t ∧
    ∀ p p', InvoiceFrequency.monthly.periodEndingBefore asOf = .ok p →
      InvoiceFrequency.monthly.periodEndingBefore asOf' = .ok p' →
      InvoiceFrequency.MonthsJoin asOf asOf' p p' := by
  refine ⟨fun p hnew => ?_, f.measured asOf, InvoiceFrequency.tiled t,
    fun _ _ => InvoiceFrequency.monthsJoin⟩
  obtain ⟨-, rfl⟩ := BillingPeriod.new_eq_ok_iff.1 hnew
  exact BillingPeriod.contains_iff

/-- The last instants of the 29th of February of 2024 are billed by monthly runs of March, by one
weekly run on a Monday, and by the daily run of the first of March. The monthly period of April
begins where that of March ends. -/
theorem scheduledPeriods_tile_march :
    InvoiceFrequency.monthly.periodEndingBefore (.ofSecond (19790 * secondsPerDay)) =
        .ok { start := { number := 19754 }, finish := { number := 19783 } } ∧
      InvoiceFrequency.Bills .monthly { number := 19790 }
        (.ofSecond (19783 * secondsPerDay - 1)) ∧
      (∃! d : Date, d.weekday = 0 ∧
        InvoiceFrequency.Bills .weekly d (.ofSecond (19783 * secondsPerDay - 1))) ∧
      InvoiceFrequency.Bills .daily { number := 19783 }
        (.ofSecond (19783 * secondsPerDay - 1)) ∧
      ∃ p, InvoiceFrequency.monthly.periodEndingBefore (.ofSecond (19820 * secondsPerDay)) = .ok p ∧
        p.start = { number := 19783 } := by
  have hmarch : InvoiceFrequency.monthly.periodEndingBefore (.ofSecond (19790 * secondsPerDay)) =
      .ok { start := { number := 19754 }, finish := { number := 19783 } } := by decide
  have hapril : InvoiceFrequency.monthly.periodEndingBefore (.ofSecond (19820 * secondsPerDay)) =
      .ok { start := { number := 19783 }, finish := { number := 19814 } } := by decide
  obtain ⟨hdays, -, htiled, hjoin⟩ :=
    scheduledPeriods_tile { number := 19754 } { number := 19783 }
      (.ofSecond (19790 * secondsPerDay)) (.ofSecond (19820 * secondsPerDay))
      (.ofSecond (19783 * secondsPerDay - 1)) .monthly
  have hin := (hdays _ rfl).2 ⟨by decide, by decide⟩
  exact ⟨hmarch, (htiled.date _ _).2 ⟨_, hmarch, hin⟩,
    htiled.weekly (by decide) (by decide) 0, (htiled.nextDay _).2 (by decide),
    _, hapril, (hjoin _ _ hmarch hapril).adjacent (by decide)⟩

end RideLedger
