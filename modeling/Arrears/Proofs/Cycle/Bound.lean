import Arrears.Proofs.Cycle.Transitions
import Mathlib.Data.List.Infix

/-! The cycle dates up to a bound are all those of the grid that do not lie behind it. So a later
bound only adds dates at the end, and transitions up to a later end begin with those up to an
earlier one. The end of a closed interval is its last transition. -/

set_option autoImplicit false

namespace Arrears

theorem monthStart_mono {first second : Int} (ordered : first ≤ second) :
    Calendar.monthStart first ≤ Calendar.monthStart second := by
  refine monotone_int_of_le_succ (fun index => ?_) ordered
  have long := Calendar.le_monthLength index
  unfold Calendar.monthLength at long
  omega

theorem alignedDay_le {index day : Int} (cycleDay : Int) (earlier : index < Calendar.monthOf day) :
    alignedDay index cycleDay ≤ day := by
  have within := alignedDay_lt_monthStart index cycleDay
  have months := monthStart_mono (Int.add_one_le_of_lt earlier)
  have starts := (Calendar.mem_monthOf day).1
  omega

theorem le_monthOf {index cycleDay day : Int} (positive : 1 ≤ cycleDay)
    (reached : alignedDay index cycleDay ≤ day) : index ≤ Calendar.monthOf day := by
  by_contra later
  have within := monthStart_le_alignedDay positive index
  have months := monthStart_mono (Int.add_one_le_of_lt (Int.not_le.1 later))
  have ends := (Calendar.mem_monthOf day).2
  omega

theorem toNat_ediv_bounds {step distance : Int} (positive : 0 < step) (ahead : 0 ≤ distance) :
    (distance / step).toNat * step ≤ distance ∧ distance < ((distance / step).toNat + 1) * step := by
  rw [Int.toNat_of_nonneg (Int.ediv_nonneg ahead positive.le)]
  exact ⟨Int.ediv_mul_le distance positive.ne', Int.lt_ediv_add_one_mul_self distance positive⟩

namespace CycleGrid

variable {grid : CycleGrid} {bound : Date} {count : Nat}

theorem dayAt_le_iff (grid : CycleGrid) {m n : Int} : grid.dayAt m ≤ grid.dayAt n ↔ m ≤ n := by
  have steps : StrictMono grid.dayAt := fun _ _ => dayAt_lt
  exact steps.le_iff_le

theorem dayAt_days (days : grid.cycle = .days count) (n : Int) :
    grid.dayAt n = grid.start.number + n * count := by
  simp only [dayAt, days]

theorem dayAt_months (months : grid.cycle = .months count) (n : Int) :
    grid.dayAt n = alignedDay (grid.firstMonth + n * count) grid.cycleDay := by
  simp only [dayAt, months, monthAt, Cycle.count]

theorem dayAt_le_of_months (months : grid.cycle = .months count) {n : Int}
    (earlier : grid.firstMonth + n * count < bound.monthIndex) : grid.dayAt n ≤ bound.number := by
  rw [dayAt_months months]
  exact alignedDay_le _ earlier

theorem lt_dayAt_of_months (months : grid.cycle = .months count) {n : Int}
    (later : bound.monthIndex < grid.firstMonth + n * count) : bound.number < grid.dayAt n := by
  refine Int.not_le.1 fun within => ?_
  rw [dayAt_months months] at within
  exact absurd (le_monthOf grid.day_pos within) (Int.not_le.2 later)

/-- The last cycle date that does not lie behind the bound, and the next one. -/
theorem lastIndex?_eq_some {last : Nat} (found : grid.lastIndex? bound = some last) :
    grid.dayAt last ≤ bound.number ∧ bound.number < grid.dayAt (last + 1) := by
  have counted := grid.count_pos
  unfold lastIndex? at found
  split at found
  next => cases found
  next reached =>
    rw [Int.not_lt] at reached
    split at found
    next count days =>
      rw [days, Cycle.count] at counted
      rw [dayAt_days days] at reached
      obtain ⟨whole, part⟩ := toNat_ediv_bounds (Int.natCast_pos.2 counted)
        (by omega : 0 ≤ bound.number - grid.start.number)
      cases found
      rw [dayAt_days days, dayAt_days days]
      omega
    next count months =>
      rw [months, Cycle.count] at counted
      rw [dayAt_months months] at reached
      have ahead : grid.firstMonth + 0 * count ≤ bound.monthIndex := le_monthOf grid.day_pos reached
      obtain ⟨whole, part⟩ := toNat_ediv_bounds (Int.natCast_pos.2 counted)
        (by omega : 0 ≤ bound.monthIndex - grid.firstMonth)
      dsimp only at found
      generalize ((bound.monthIndex - grid.firstMonth) / (count : Int)).toNat = k at *
      split at found
      next within =>
        cases found
        exact ⟨within, lt_dayAt_of_months months (by omega)⟩
      next behind =>
        cases found
        have some_before : k ≠ 0 := by
          rintro rfl
          exact behind (dayAt_months months 0 ▸ reached)
        obtain ⟨j, rfl⟩ := Nat.exists_eq_succ_of_ne_zero some_before
        refine ⟨dayAt_le_of_months months ?_, Int.not_le.1 behind⟩
        rw [Nat.succ_sub_one]
        rw [Int.natCast_succ, Int.add_mul, Int.one_mul] at whole
        omega

/-- The cycle dates up to a bound are those that do not lie behind it. -/
theorem lt_countUpTo {n : Nat} : n < grid.countUpTo bound ↔ grid.dayAt n ≤ bound.number := by
  unfold countUpTo
  cases found : grid.lastIndex? bound with
  | none =>
    have start : bound.number < grid.dayAt 0 := by
      unfold lastIndex? at found
      split at found
      next behind => exact behind
      next => split at found <;> cases found
    have first := grid.dayAt_le_iff.2 (Int.natCast_nonneg n)
    constructor
    · exact fun none => absurd none (Nat.not_lt_zero n)
    · intro reached
      omega
  | some last =>
    obtain ⟨reached, beyond⟩ := lastIndex?_eq_some found
    dsimp only
    constructor
    · intro before
      exact (grid.dayAt_le_iff.2 (by omega)).trans reached
    · intro within
      by_contra after
      have later := grid.dayAt_le_iff.2 (by omega : (last + 1 : Int) ≤ n)
      omega

theorem countUpTo_mono (grid : CycleGrid) {bound stop : Date} (later : bound ≤ stop) :
    grid.countUpTo bound ≤ grid.countUpTo stop := by
  by_contra fewer
  have reached := lt_countUpTo.1 (Nat.not_le.1 fewer)
  exact Nat.lt_irrefl _ (lt_countUpTo.2 (reached.trans later))

theorem datesUpTo_prefix {stop : Date} {dates more : List Date} (later : bound ≤ stop)
    (found : grid.datesUpTo bound = .ok dates) (found_later : grid.datesUpTo stop = .ok more) :
    dates <+: more := by
  obtain ⟨_, _, collected⟩ := bind_eq_ok.1 found
  obtain ⟨_, _, collected_later⟩ := bind_eq_ok.1 found_later
  obtain ⟨added, total⟩ := Nat.exists_eq_add_of_le (grid.countUpTo_mono later)
  rw [total, List.range_add] at collected_later
  obtain ⟨front, back, collected_front, _, rfl⟩ := mapM_append_eq_ok.1 collected_later
  cases Except.ok.inj (collected.symm.trans collected_front)
  exact List.prefix_append dates back

theorem datesUpTo_le {dates : List Date} (found : grid.datesUpTo bound = .ok dates) :
    ∀ date ∈ dates, date ≤ bound := by
  obtain ⟨_, _, collected⟩ := bind_eq_ok.1 found
  refine forall_mem_mapM collected fun n member date at_n => ?_
  rw [Date.le_def, dateAt_number at_n]
  exact lt_countUpTo.1 (List.mem_range.1 member)

end CycleGrid

namespace UsageInterval

/-- The transitions of an open interval: the start, and the cycle dates behind it. -/
def openTransitions (start rawUsageStart : Date) (cycleDates : List Date) : List Date :=
  (if rawUsageStart ≤ start then [start] else []) ++
    cycleDates.filter fun date => decide (start < date) && decide (rawUsageStart ≤ date)

variable {start stop rawUsageStart : Date} {cycleDates : List Date}

theorem openTransitions_of_known (known : rawUsageStart ≤ start) (cycleDates : List Date) :
    ∃ more, openTransitions start rawUsageStart cycleDates = start :: more := by
  rw [openTransitions, if_pos known]
  exact ⟨_, rfl⟩

theorem transitionsBetween_eq (start stop rawUsageStart : Date) (closed : Bool) (cycleDates : List Date) :
    transitionsBetween start stop rawUsageStart closed cycleDates =
      match (openTransitions start rawUsageStart cycleDates).getLast? with
      | some last =>
        if closed && decide (last < stop) then openTransitions start rawUsageStart cycleDates ++ [stop]
        else openTransitions start rawUsageStart cycleDates
      | none => [] := rfl

theorem transitionsBetween_open (start stop rawUsageStart : Date) (cycleDates : List Date) :
    transitionsBetween start stop rawUsageStart false cycleDates =
      openTransitions start rawUsageStart cycleDates := by
  rw [transitionsBetween_eq]
  split
  next => rfl
  next none => exact (List.getLast?_eq_none_iff.1 none).symm

/-- Closing an interval adds at most its end to its transitions. -/
theorem open_prefix_transitionsBetween (start stop rawUsageStart : Date) (closed : Bool)
    (cycleDates : List Date) :
    openTransitions start rawUsageStart cycleDates <+:
      transitionsBetween start stop rawUsageStart closed cycleDates := by
  rw [transitionsBetween_eq]
  split
  next =>
    split
    next => exact List.prefix_append _ _
    next => exact List.prefix_refl _
  next none =>
    rw [List.getLast?_eq_none_iff.1 none]

theorem openTransitions_mono {more : List Date} (front : cycleDates <+: more) :
    openTransitions start rawUsageStart cycleDates <+: openTransitions start rawUsageStart more :=
  List.prefix_append_right_inj _ |>.2 (front.filter _)

theorem getLast?_of_some_open (until_stop : ∀ date ∈ openTransitions start rawUsageStart cycleDates, date ≤ stop)
    (some_open : openTransitions start rawUsageStart cycleDates ≠ []) :
    (transitionsBetween start stop rawUsageStart true cycleDates).getLast? = some stop := by
  rw [transitionsBetween_eq]
  split
  next last ends =>
    split
    next => exact List.getLast?_concat
    next reached =>
      -- the last cycle date is the end itself
      rw [Bool.true_and, decide_eq_true_eq] at reached
      have same : last = stop :=
        Date.ext_number (Int.le_antisymm (until_stop last (List.mem_of_getLast? ends)) (Int.not_lt.1 reached))
      rw [ends, same]
  next none => exact absurd (List.getLast?_eq_none_iff.1 none) some_open

theorem openTransitions_le (ahead : start ≤ stop) (until_stop : ∀ date ∈ cycleDates, date ≤ stop) :
    ∀ date ∈ openTransitions start rawUsageStart cycleDates, date ≤ stop := by
  rw [openTransitions]
  refine List.forall_mem_append.2 ⟨?_, fun date member => until_stop date (List.mem_filter.1 member).1⟩
  split
  next => exact List.forall_mem_singleton.2 ahead
  next => exact List.forall_mem_nil _

theorem getLast?_transitionsBetween (known : rawUsageStart ≤ start) (ahead : start ≤ stop)
    (until_stop : ∀ date ∈ cycleDates, date ≤ stop) :
    (transitionsBetween start stop rawUsageStart true cycleDates).getLast? = some stop := by
  refine getLast?_of_some_open (openTransitions_le ahead until_stop) ?_
  obtain ⟨more, same⟩ := openTransitions_of_known known cycleDates
  rw [same]
  exact List.cons_ne_nil start more

end UsageInterval

end Arrears
