import Arrears.Proofs.Cycle.Following

/-! Cycle dates never drift. Each is counted from the first and not from the one before it, so that
a day that is cut in a short month is whole again in the next long one: in a grid by months the
`n`th date lies `n` periods of months behind the first, on the cycle day or on the last day of its
month, and in a grid by days `n` periods of days behind the start. -/

set_option autoImplicit false

namespace Arrears

/-! ## Months of days -/

namespace Calendar

theorem monthOf_eq {index day : Int} (reached : monthStart index ≤ day) (before : day < monthStart (index + 1)) :
    monthOf day = index := by
  obtain ⟨starts, ends⟩ := mem_monthOf day
  apply Int.le_antisymm
  · by_contra later
    have := monthStart_mono (Int.add_one_le_of_lt (Int.not_le.1 later))
    omega
  · by_contra earlier
    have := monthStart_mono (Int.add_one_le_of_lt (Int.not_le.1 earlier))
    omega

theorem yearOf_eq (day : Int) : yearOf day = monthOf day / 12 := by
  have first := yearStart_yearOf_le day
  have next := lt_yearStart_yearOf day
  rw [yearStart_succ] at next
  have within : InMonth (isLeap (yearOf day)) (day - yearStart (yearOf day))
      (monthOfOffset (isLeap (yearOf day)) (day - yearStart (yearOf day))) :=
    inMonth_monthOfOffset (by omega) (by omega)
  have := within.nonneg
  have := within.le
  unfold monthOf
  omega

-- The calendar opens with the first month of year 1 and closes in front of year 10000.
theorem monthStart_first : monthStart 12 = 1 := by decide
theorem monthStart_end : monthStart 120000 = 3652060 := by decide

theorem monthOf_alignedDay {cycleDay : Int} (positive : 1 ≤ cycleDay) (index : Int) :
    monthOf (alignedDay index cycleDay) = index :=
  monthOf_eq (monthStart_le_alignedDay positive index) (alignedDay_lt_monthStart index cycleDay)

end Calendar

namespace Date

variable {date : Date} {index cycleDay : Int}

theorem year_eq (date : Date) : date.year = date.monthIndex / 12 := Calendar.yearOf_eq date.number

theorem monthIndex_eq (date : Date) : date.monthIndex = 12 * date.year + (date.month - 1) := by
  rw [year_eq, month]
  omega

theorem monthIndex_of_aligned (positive : 1 ≤ cycleDay) (aligned : date.number = alignedDay index cycleDay) :
    date.monthIndex = index := by
  rw [monthIndex, aligned, Calendar.monthOf_alignedDay positive]

theorem day_of_aligned (positive : 1 ≤ cycleDay) (aligned : date.number = alignedDay index cycleDay) :
    date.day = min cycleDay (Calendar.monthLength index) := by
  rw [day, monthIndex_of_aligned positive aligned, aligned, alignedDay]
  omega

theorem monthIndex_bounds (date : Date) : 12 ≤ date.monthIndex ∧ date.monthIndex < 120000 := by
  obtain ⟨starts, ends⟩ := Calendar.mem_monthOf date.number
  have first := date.first_le
  have last := date.le_last
  rw [monthIndex]
  constructor
  · by_contra before
    have opens := monthStart_mono (Int.add_one_le_of_lt (Int.not_le.1 before))
    rw [Calendar.monthStart_first] at opens
    omega
  · by_contra behind
    have closes := monthStart_mono (Int.not_lt.1 behind)
    rw [Calendar.monthStart_end] at closes
    omega

theorem monthLength_eq (date : Date) : Calendar.monthLength date.monthIndex =
    Calendar.lengthInYear (Calendar.isLeap date.year) (date.month - 1) := by
  rw [Calendar.monthLength_eq, ← year_eq, month]
  congr 1
  omega

end Date

/-! ## Steps of a grid -/

theorem BillingPeriod.months_eq {period : BillingPeriod} {count : Nat}
    (counted : period.cycle? = some (.months count)) : period.months = count := by
  rw [months, counted]

namespace CycleGrid

variable {grid : CycleGrid} {count : Nat} {n : Int} {date first : Date}

/-- In a grid by months, where a cycle date lies. -/
theorem monthIndex_dateAt (months : grid.cycle = .months count) (found : grid.dateAt n = .ok date) :
    date.monthIndex = grid.firstMonth + n * count := by
  refine Date.monthIndex_of_aligned grid.day_pos ?_
  rw [dateAt_number found, dayAt_months months]

theorem day_dateAt (months : grid.cycle = .months count) (found : grid.dateAt n = .ok date) :
    date.day = min grid.cycleDay (Calendar.monthLength date.monthIndex) := by
  rw [monthIndex_dateAt months found]
  refine Date.day_of_aligned grid.day_pos ?_
  rw [dateAt_number found, dayAt_months months]

theorem dateAt_days (days : grid.cycle = .days count) (n : Int) :
    grid.dateAt n = grid.start.addDays (n * count) := by
  cases found : Date.ofNumber? (grid.start.number + n * count) <;>
    simp only [dateAt, dayAt_days days, Date.addDays, faultAt, days, found]

/-- The first cycle date lies in the month of the start or, in a grid by months, one period behind it. -/
theorem monthIndex_first (begins : grid.dateAt 0 = .ok first) : first.monthIndex = grid.start.monthIndex ∨
    ∃ count, grid.cycle = .months count ∧ first.monthIndex = grid.start.monthIndex + count := by
  cases cycle : grid.cycle with
  | days count =>
    have same : first = grid.start := by
      apply Date.ext_number
      rw [dateAt_number begins, dayAt_days cycle, Int.zero_mul, Int.add_zero]
    exact .inl (congrArg Date.monthIndex same)
  | months count =>
    rw [monthIndex_dateAt cycle begins, Int.zero_mul, Int.add_zero, firstMonth, cycle]
    split
    · exact .inr ⟨count, rfl, rfl⟩
    · exact .inl rfl

theorem exists_dateAt_iff (months : grid.cycle = .months count) : (∃ date, grid.dateAt n = .ok date) ↔
    12 ≤ grid.firstMonth + n * count ∧ grid.firstMonth + n * count < 120000 := by
  constructor
  · rintro ⟨date, found⟩
    rw [← monthIndex_dateAt months found]
    exact date.monthIndex_bounds
  · rintro ⟨from_first, to_last⟩
    have reached := monthStart_le_alignedDay grid.day_pos (grid.firstMonth + n * count)
    have before := alignedDay_lt_monthStart (grid.firstMonth + n * count) grid.cycleDay
    have opens := monthStart_mono from_first
    have closes := monthStart_mono (Int.add_one_le_of_lt to_last)
    rw [Calendar.monthStart_first] at opens
    rw [Calendar.monthStart_end] at closes
    exact exists_dateAt (by rw [dayAt_months months]; omega) (by rw [dayAt_months months]; omega)

/-- How the cycle dates of a start lie, as far as they exist. -/
structure KeepsStep (grid : CycleGrid) (start : Date) (cycleDay : Int) (period : BillingPeriod) : Prop where
  by_months : ∀ months, period.cycle? = some (.months months) → ∀ (n : Int) first date,
    grid.dateAt 0 = .ok first → grid.dateAt n = .ok date →
      12 * date.year + date.month = 12 * first.year + first.month + n * months ∧
        date.day = min cycleDay (Calendar.lengthInYear (Calendar.isLeap date.year) (date.month - 1))
  by_days : ∀ days, period.cycle? = some (.days days) → ∀ n : Int, grid.dateAt n = start.addDays (n * days)
  increasing : ∀ (m n : Int) (earlier later : Date), m < n → grid.dateAt m = .ok earlier →
    grid.dateAt n = .ok later → earlier < later
  before_start : ∀ date, grid.dateAt (-1) = .ok date → date < start
  from_start : ∀ first, grid.dateAt 0 = .ok first → start ≤ first ∧
    (first.monthIndex = start.monthIndex ∨ first.monthIndex = start.monthIndex + period.months)
  exist : ∀ months, period.cycle? = some (.months months) → ∀ (n : Int) first, grid.dateAt 0 = .ok first →
    ((∃ date, grid.dateAt n = .ok date) ↔
      12 ≤ first.monthIndex + n * months ∧ first.monthIndex + n * months < 120000)

theorem of_supported (start : Date) {cycleDay : Int} {period : BillingPeriod} (day : 1 ≤ cycleDay)
    (day_le : cycleDay ≤ 31) (supported : period ≠ .none) :
    ∃ grid, CycleGrid.of start cycleDay period = .ok grid := by
  unfold CycleGrid.of
  rw [dif_pos ⟨day, day_le⟩]
  cases period <;> first | exact ⟨_, rfl⟩ | exact absurd rfl supported

theorem keepsStep_of {start : Date} {cycleDay : Int} {period : BillingPeriod}
    (aligned : CycleGrid.of start cycleDay period = .ok grid) : grid.KeepsStep start cycleDay period := by
  obtain ⟨rfl, rfl, counted⟩ := of_eq_ok aligned
  have by_months {months : Nat} (same : period.cycle? = some (.months months)) : grid.cycle = .months months :=
    Option.some.inj (counted.symm.trans same)
  refine ⟨?_, ?_, ?_, ?_, ?_, ?_⟩
  · intro months same n first date begins found
    have index := monthIndex_dateAt (by_months same) found
    have start_index := monthIndex_dateAt (by_months same) begins
    have day := day_dateAt (by_months same) found
    rw [Date.monthLength_eq] at day
    rw [Date.monthIndex_eq] at index start_index
    exact ⟨by omega, day⟩
  · intro days same n
    exact dateAt_days (Option.some.inj (counted.symm.trans same)) n
  · intro m n earlier later before at_m at_n
    rw [Date.lt_def, dateAt_number at_m, dateAt_number at_n]
    exact dayAt_lt before
  · intro date found
    rw [Date.lt_def, dateAt_number found]
    exact grid.dayAt_neg_one_lt
  · intro first begins
    have reached : grid.start ≤ first := by
      rw [Date.le_def, dateAt_number begins]
      exact grid.start_le_dayAt_zero
    rcases monthIndex_first begins with same | ⟨count, cycle, later⟩
    · exact ⟨reached, .inl same⟩
    · rw [BillingPeriod.months_eq (cycle ▸ counted)]
      exact ⟨reached, .inr later⟩
  · intro months same n first begins
    rw [exists_dateAt_iff (by_months same), monthIndex_dateAt (by_months same) begins, Int.zero_mul, Int.add_zero]

/-- Cycle dates never drift. Each supported period and cycle day gives a start its grid: by months
every date lies whole periods behind the first, on the cycle day or on the last day of its month; by
days whole periods behind the start. Dates follow each other in order, and the first of them on or
behind the start is in its month or one period of months later. -/
theorem cycle_dates_keep_step (start : Date) {cycleDay : Int} {period : BillingPeriod} (day : 1 ≤ cycleDay)
    (day_le : cycleDay ≤ 31) (supported : period ≠ .none) :
    ∃ grid, CycleGrid.of start cycleDay period = .ok grid ∧ grid.KeepsStep start cycleDay period := by
  obtain ⟨grid, aligned⟩ := of_supported start day day_le supported
  exact ⟨grid, aligned, keepsStep_of aligned⟩

/-! ## Quarters by the end of the month

From the last day of November on, by quarters on the 31st: the leap day is followed by a whole 31. -/

def november : Date := ⟨737393, by decide, by decide⟩
def lastOfFebruary : Date := ⟨737484, by decide, by decide⟩
def lastOfMay : Date := ⟨737576, by decide, by decide⟩

theorem quarters_keep_step : ∃ grid, CycleGrid.of november 31 .quarterly = .ok grid ∧
    grid.KeepsStep november 31 .quarterly ∧ grid.dateAt 0 = .ok november ∧
      grid.dateAt 1 = .ok lastOfFebruary ∧ grid.dateAt 2 = .ok lastOfMay := by
  obtain ⟨grid, aligned, steady⟩ :=
    cycle_dates_keep_step november (by decide : (1 : Int) ≤ 31) (by decide) (by decide : BillingPeriod.quarterly ≠ .none)
  refine ⟨grid, aligned, steady, ?_⟩
  cases aligned
  decide

end CycleGrid

end Arrears
