import Arrears.Proofs.Cycle.Standing
import Arrears.Proofs.Interval.Boundaries

/-! Date arithmetic is safe away from the last two years of the calendar. A cycle is two years long at
most, and what is looked for among cycle dates is found at the first one behind its bound, so that no
date is needed which the calendar lacks: billing intervals can be made, usage intervals built and
their next notifications found. What dates cannot help is an interval without events, and an event
whose local date does not exist. -/

set_option autoImplicit false

namespace Arrears

/-! ## Two years of room -/

def Date.BeforeLastYears (date : Date) : Prop := date.year ≤ 9997

instance (date : Date) : Decidable date.BeforeLastYears := inferInstanceAs (Decidable (date.year ≤ 9997))

namespace Date.BeforeLastYears

variable {date : Date}

theorem monthIndex_lt (early : date.BeforeLastYears) : date.monthIndex < 119976 := by
  rw [BeforeLastYears, Date.year_eq] at early
  omega

theorem number_lt (early : date.BeforeLastYears) : date.number < 3651330 := by
  have ends := (Calendar.mem_monthOf date.number).2
  have months := monthStart_mono (Int.add_one_le_of_lt early.monthIndex_lt)
  rw [Date.monthIndex, (by decide : Calendar.monthStart 119976 = 3651330)] at months
  exact lt_of_lt_of_le ends months

theorem cutBy {stop : Option Date} (early : date.BeforeLastYears) (stops : ∀ cut ∈ stop, cut.BeforeLastYears) :
    (date.cutBy stop).BeforeLastYears := by
  unfold Date.cutBy
  split
  next cut =>
    split
    next => exact stops cut rfl
    next => exact early
  next => exact early

end Date.BeforeLastYears

def Cycle.UpToTwoYears : Cycle → Prop
  | .days count => count ≤ 730
  | .months count => count ≤ 24

theorem BillingPeriod.cycle_upToTwoYears {period : BillingPeriod} {cycle : Cycle}
    (counted : period.cycle? = some cycle) : cycle.UpToTwoYears := by
  cases period <;> cases counted <;> simp [Cycle.UpToTwoYears]

namespace CycleGrid

variable {grid : CycleGrid} {date bound : Date}

theorem dayAt_succ_le {n : Int} (short : grid.cycle.UpToTwoYears) (early : date.BeforeLastYears)
    (within : grid.dayAt n ≤ date.number) : grid.dayAt (n + 1) ≤ 3652059 := by
  cases cycle : grid.cycle with
  | days count =>
    have room := early.number_lt
    rw [cycle, Cycle.UpToTwoYears] at short
    rw [dayAt_days cycle] at within ⊢
    rw [Int.add_mul]
    omega
  | months count =>
    have room := early.monthIndex_lt
    rw [cycle, Cycle.UpToTwoYears] at short
    rw [dayAt_months cycle] at within ⊢
    have month : grid.firstMonth + n * count ≤ date.monthIndex := le_monthOf grid.day_pos within
    have before := alignedDay_lt_monthStart (grid.firstMonth + (n + 1) * count) grid.cycleDay
    have last : grid.firstMonth + (n + 1) * count + 1 ≤ 120000 := by
      rw [Int.add_mul]
      omega
    have closes := monthStart_mono last
    rw [Calendar.monthStart_end] at closes
    omega

theorem dayAt_countUpTo_le (short : grid.cycle.UpToTwoYears) (starts : grid.start.BeforeLastYears)
    (early : bound.BeforeLastYears) : grid.dayAt (grid.countUpTo bound) ≤ 3652059 := by
  cases counted : grid.countUpTo bound with
  | zero =>
    -- the first date follows one before the start
    have before : grid.dayAt (-1) ≤ grid.start.number := Int.le_of_lt grid.dayAt_neg_one_lt
    have first := dayAt_succ_le short starts before
    exact first
  | succ last =>
    have within : grid.dayAt last ≤ bound.number := lt_countUpTo.1 (counted ▸ Nat.lt_succ_self last)
    have next := dayAt_succ_le short early within
    exact next

/-- What looking among cycle dates up to a bound needs: they exist, and so does the next one, so that
searching and reading them come to an end without a fault. -/
structure Reaches (grid : CycleGrid) (bound : Date) : Prop where
  exist : ∀ n : Nat, n ≤ grid.countUpTo bound → ∃ date, grid.dateAt n = .ok date
  one_behind : ∃ date, grid.dateAt (grid.countUpTo bound) = .ok date ∧ bound < date
  searched : ∀ steps, grid.search bound (steps + 2) = some (.ok (grid.lastIndex? bound))
  read : ∃ dates, grid.readFrom bound (grid.countUpTo bound + 1) 0 = some (.ok dates)

theorem reaches_before_last_years (short : grid.cycle.UpToTwoYears) (starts : grid.start.BeforeLastYears)
    (early : bound.BeforeLastYears) : grid.Reaches bound := by
  have exist (n : Nat) (within : n ≤ grid.countUpTo bound) : ∃ date, grid.dateAt n = .ok date := by
    have reached : grid.dayAt n ≤ grid.dayAt (grid.countUpTo bound) := grid.dayAt_le_iff.2 (Int.ofNat_le.2 within)
    exact exists_dateAt (grid.one_le_dayAt n) (Int.le_trans reached (dayAt_countUpTo_le short starts early))
  obtain ⟨behind, found⟩ := exist _ (Nat.le_refl _)
  refine ⟨exist, ⟨behind, found, ?_⟩, ?_, ?_⟩
  · rw [Date.lt_def, dateAt_number found]
    exact grid.lt_following bound
  · obtain ⟨outcome, ends, rfl | ⟨fault, _, missing⟩⟩ := grid.search_ends bound
    · exact ends
    · cases found.symm.trans missing
  · obtain ⟨dates, collected⟩ := exists_mapM fun (n : Nat) (member : n ∈ List.range (grid.countUpTo bound)) =>
      exist n (Nat.le_of_lt (List.mem_range.1 member))
    refine ⟨dates, ?_⟩
    rw [readFrom_countUpTo]
    exact congrArg some (bind_eq_ok.2 ⟨behind, found, collected⟩)

theorem Reaches.exists_datesUpTo (reaches : grid.Reaches bound) : ∃ dates, grid.datesUpTo bound = .ok dates := by
  obtain ⟨dates, read⟩ := reaches.read
  rw [readFrom_countUpTo] at read
  exact ⟨dates, Option.some.inj read⟩

theorem exists_stand (mode : BillingMode) {stop : Option Date} {target : Date} (to_target : grid.Reaches target)
    (to_cut : grid.Reaches (target.cutBy stop)) : ∃ last next, grid.stand mode stop target = .ok (last, next) := by
  cases mode with
  | inAdvance =>
    obtain ⟨proposed, ahead, _⟩ := to_target.one_behind
    exact ⟨none, proposed.cutBy stop, inAdvance_eq_ok_iff.2 ⟨rfl, proposed, ahead, rfl⟩⟩
  | inArrear =>
    obtain ⟨next, at_next, _⟩ := to_cut.one_behind
    cases counted : grid.lastIndex? (target.cutBy stop) with
    | none => exact ⟨none, next, inArrear_eq_ok_iff.2 ⟨by rw [counted]; rfl, at_next⟩⟩
    | some n =>
      have before : n ≤ grid.countUpTo (target.cutBy stop) := by
        rw [countUpTo, counted]
        exact Nat.le_succ n
      obtain ⟨last, at_last⟩ := to_cut.exist n before
      refine ⟨some last, next, inArrear_eq_ok_iff.2 ⟨?_, at_next⟩⟩
      rw [counted]
      exact congrArg some at_last

end CycleGrid

theorem BillingInterval.exists_of {start target : Date} {stop : Option Date} {cycleDay : Int}
    {period : BillingPeriod} (mode : BillingMode) (day : 1 ≤ cycleDay ∧ cycleDay ≤ 31)
    (supported : period ≠ .none) (starts : start.BeforeLastYears) (seen : target.BeforeLastYears)
    (stops : ∀ cut ∈ stop, cut.BeforeLastYears) :
    ∃ billing, BillingInterval.of start stop target cycleDay period mode = .ok billing ∧
      ∀ bound, bound.BeforeLastYears → billing.grid.Reaches bound := by
  obtain ⟨grid, aligned⟩ := CycleGrid.of_supported start day.1 day.2 supported
  obtain ⟨same_start, _, counted⟩ := CycleGrid.of_eq_ok aligned
  have reaches (bound : Date) (early : bound.BeforeLastYears) : grid.Reaches bound :=
    CycleGrid.reaches_before_last_years (BillingPeriod.cycle_upToTwoYears counted) (same_start ▸ starts) early
  obtain ⟨first, begins⟩ := (reaches target seen).exist 0 (Nat.zero_le _)
  obtain ⟨last, next, stands⟩ := CycleGrid.exists_stand mode (reaches target seen) (reaches _ (seen.cutBy stops))
  exact ⟨_, of_eq_ok_iff.2 ⟨grid, first, last, next, aligned, begins, stands, rfl⟩, reaches⟩

namespace UsageInterval

/-! ## Building and coming back -/

/-- An interval of a supported period, with its target and the local dates of its events before the
last years. -/
structure Timely (interval : UsageInterval) : Prop where
  supported : interval.usage.period ≠ .none
  target : interval.target.BeforeLastYears
  cycle_days : ∀ event ∈ interval.events, 1 ≤ event.cycleDay ∧ event.cycleDay ≤ 31
  dated : ∀ event ∈ interval.events, ∃ date, interval.localDate event = .ok date ∧ date.BeforeLastYears

variable {interval : UsageInterval} {event : BillingEvent}

theorem Timely.exists_stopDate (timely : interval.Timely) (closed : Bool) :
    ∃ stop, interval.stopDate closed = .ok stop ∧ stop.BeforeLastYears := by
  unfold stopDate
  split
  next last ends => exact timely.dated last (List.mem_of_getLast? ends)
  next => exact ⟨interval.target, rfl, timely.target⟩

theorem Timely.exists_transitionsFrom (timely : interval.Timely) (closed : Bool) (among : event ∈ interval.events)
    {start : Date} (starts : start.BeforeLastYears) :
    ∃ transitions, interval.transitionsFrom start event.cycleDay closed = .ok transitions := by
  obtain ⟨stop, ends, stops⟩ := timely.exists_stopDate closed
  obtain ⟨billing, made, reaches⟩ := BillingInterval.exists_of interval.usage.mode (timely.cycle_days event among)
    timely.supported starts timely.target (fun cut same => Option.some.inj same ▸ stops)
  obtain ⟨cycleDates, up_to⟩ := (reaches stop stops).exists_datesUpTo
  refine ⟨transitionsBetween start stop interval.rawUsageStart closed cycleDates, ?_⟩
  refine bind_eq_ok.2 ⟨stop, mapError_eq_ok.2 ends, bind_eq_ok.2 ⟨billing, made, ?_⟩⟩
  exact bind_eq_ok.2 ⟨cycleDates, mapError_eq_ok.2 up_to, rfl⟩

theorem exists_firstEvent (some_event : interval.events ≠ []) :
    ∃ event ∈ interval.events, interval.firstEvent = .ok event := by
  obtain ⟨event, others, same⟩ := List.exists_cons_of_ne_nil some_event
  refine ⟨event, ?_, ?_⟩
  · rw [same]
    exact List.mem_cons_self
  · rw [firstEvent, same]

theorem Timely.exists_build (timely : interval.Timely) {closed : Bool}
    (collecting : interval.requireCollecting = .ok ()) (enough : requiredEvents closed ≤ interval.events.length) :
    ∃ transitions, interval.build closed = .ok { interval with phase := .built transitions } := by
  have some_event : interval.events ≠ [] := by
    rintro none
    rw [none] at enough
    cases closed <;> cases enough
  obtain ⟨event, among, begins⟩ := exists_firstEvent some_event
  obtain ⟨start, dated, starts⟩ := timely.dated event among
  have spaced : ∃ transitions, (if interval.target < start then .ok [] else
      interval.transitionsFrom start event.cycleDay closed) = .ok transitions := by
    split
    next => exact ⟨[], rfl⟩
    next => exact timely.exists_transitionsFrom closed among starts
  obtain ⟨transitions, found⟩ := spaced
  refine ⟨transitions, build_eq_ok_iff.2 ⟨event, start, transitions, ?_, rfl⟩⟩
  exact ⟨collecting, Nat.not_lt.2 enough, begins, dated, found⟩

theorem Timely.dueDate_ok (timely : interval.Timely) (among : event ∈ interval.events)
    {following : Option BillingEvent} (follows : ∀ other ∈ following, other ∈ interval.events) :
    ∃ date, interval.dueDate event following = .ok date := by
  obtain ⟨start, dated, starts⟩ := timely.dated event among
  have dated_cut : ∃ cut : Option Date, following.map interval.localDate = cut.map Except.ok ∧
      ∀ date ∈ cut, date.BeforeLastYears := by
    cases following with
    | none => exact ⟨none, rfl, nofun⟩
    | some other =>
      obtain ⟨stop, stops, early⟩ := timely.dated other (follows other rfl)
      exact ⟨some stop, congrArg some stops, fun date same => Option.some.inj same ▸ early⟩
  obtain ⟨cut, cuts, early⟩ := dated_cut
  obtain ⟨billing, made, _⟩ := BillingInterval.exists_of .inArrear (timely.cycle_days event among)
    timely.supported starts timely.target early
  exact ⟨billing.next, dueDate_eq_ok_iff.2 ⟨start, cut, billing, dated, cuts, made, rfl⟩⟩

theorem Timely.dueDates_ok (timely : interval.Timely) {events : List BillingEvent} (part : events ⊆ interval.events) :
    ∃ dates, interval.dueDates events = .ok dates := by
  induction events with
  | nil => exact ⟨[], rfl⟩
  | cons event others ih =>
    obtain ⟨among, rest⟩ := List.cons_subset.1 part
    obtain ⟨date, due⟩ := timely.dueDate_ok among (fun _ follows => rest (List.mem_of_head? follows))
    obtain ⟨dates, found⟩ := ih rest
    exact ⟨date :: dates, bind_eq_ok.2 ⟨date, due, bind_eq_ok.2 ⟨dates, found, rfl⟩⟩⟩

theorem Timely.exists_nextNotification (timely : interval.Timely) (some_event : interval.events ≠ []) :
    ∃ next, interval.nextNotification = .ok next := by
  obtain ⟨event, among, begins⟩ := exists_firstEvent some_event
  obtain ⟨dates, found⟩ := timely.dueDates_ok (List.Subset.refl interval.events)
  obtain ⟨place, at_place⟩ := List.mem_iff_getElem?.1 among
  obtain ⟨date, member, _⟩ := exists_dueDate found at_place
  obtain ⟨date, others, rfl⟩ := List.exists_cons_of_ne_nil (List.ne_nil_of_mem member)
  exact ⟨others.foldl Date.later date, bind_eq_ok.2 ⟨event, mapError_eq_ok.2 begins, bind_eq_ok.2 ⟨_, found, rfl⟩⟩⟩

/-- Before the last two years nothing fails. A billing interval of any supported period can be made in
both modes, and searching and reading its cycle dates up to any such bound end, all dates on the way
and the one behind the bound at hand. An interval that collects its events, enough of them, can be
built, and where there is an event there is a next notification. -/
theorem never_fails_before_last_years :
    (∀ (start target : Date) (stop : Option Date) (cycleDay : Int) (period : BillingPeriod) (mode : BillingMode),
        1 ≤ cycleDay ∧ cycleDay ≤ 31 → period ≠ .none → start.BeforeLastYears → target.BeforeLastYears →
        (∀ cut ∈ stop, cut.BeforeLastYears) →
          ∃ billing, BillingInterval.of start stop target cycleDay period mode = .ok billing ∧
            ∀ bound, bound.BeforeLastYears → billing.grid.Reaches bound) ∧
      ∀ interval : UsageInterval, interval.Timely →
        (∀ closed, interval.requireCollecting = .ok () → requiredEvents closed ≤ interval.events.length →
          ∃ transitions, interval.build closed = .ok { interval with phase := .built transitions }) ∧
        (interval.events ≠ [] → ∃ next, interval.nextNotification = .ok next) := by
  refine ⟨?_, fun interval timely => ⟨?_, timely.exists_nextNotification⟩⟩
  · intro start target stop cycleDay period mode day supported starts seen stops
    exact BillingInterval.exists_of mode day supported starts seen stops
  · intro closed collecting enough
    exact timely.exists_build collecting enough

end UsageInterval

namespace Calls

/-! ## The last day with two years behind it

Every two years, with a first cycle day that is pushed on for two years: the next notification falls
on the last date there is. -/

def lastDay : Date := ⟨3651329, by decide, by decide⟩

def everyTwoYears : UsageInterval :=
  { collecting with
    usage := { usage with period := .biennial }
    target := lastDay
    events := [{ event with effective := .day lastDay, cycleDay := 30 },
      { event with effective := .day lastDay, cycleDay := 31 }] }

theorem everyTwoYears_never_fails :
    (∃ billing, BillingInterval.of lastDay (some lastDay) lastDay 30 .biennial .inAdvance = .ok billing ∧
        billing.grid.Reaches lastDay) ∧
      (∃ transitions, everyTwoYears.build true = .ok { everyTwoYears with phase := .built transitions }) ∧
      ∃ next, everyTwoYears.nextNotification = .ok next ∧ next = ⟨3652059, by decide, by decide⟩ := by
  have early : lastDay.BeforeLastYears := by decide
  have timely : everyTwoYears.Timely := by
    refine ⟨by decide, early, by decide, ?_⟩
    exact List.forall_mem_cons.2 ⟨⟨lastDay, rfl, early⟩, List.forall_mem_singleton.2 ⟨lastDay, rfl, early⟩⟩
  obtain ⟨made, each⟩ := UsageInterval.never_fails_before_last_years
  obtain ⟨billing, same, reaches⟩ := made lastDay lastDay (some lastDay) 30 .biennial .inAdvance
    (by decide) (by decide) early early (by decide)
  obtain ⟨built, due⟩ := each everyTwoYears timely
  obtain ⟨next, notified⟩ := due (by decide)
  refine ⟨⟨billing, same, reaches lastDay early⟩, built true rfl (by decide), next, notified, ?_⟩
  have last : everyTwoYears.nextNotification = .ok ⟨3652059, by decide, by decide⟩ := by decide +kernel
  exact Except.ok.inj (notified.symm.trans last)

/-! ## Where early dates are not enough -/

def withoutEvents : UsageInterval := { collecting with events := [] }

def firstMidnight : Timestamp := ⟨⟨1, by decide, by decide⟩, 0, by decide, by decide, some 0⟩

def twelveHoursWest : Zone := .fixed (-43200000000)

def west (name : String) : Option Zone := if name = "Etc/GMT+12" then some twelveHoursWest else none

/-- An event at the first midnight of universal time, where clocks still show the day before. -/
def westward : UsageInterval :=
  { collecting with
    settings := { timeZone := "Etc/GMT+12" }
    zone := twelveHoursWest
    target := ⟨32, by decide, by decide⟩
    rawUsageStart := ⟨1, by decide, by decide⟩
    events := [{ event with effective := .stamp firstMidnight }] }

/-- An interval without events cannot be built, and one whose first event has no local date neither,
though all dates of both lie before the last years. -/
theorem dates_alone_not_enough :
    (withoutEvents.Timely ∧ withoutEvents.requireCollecting = .ok () ∧
        withoutEvents.build false = .error (.lifecycle (.tooFewEvents "calls" false 0)) ∧
        withoutEvents.nextNotification = .error (.lifecycle (.noEvent "calls"))) ∧
      westward.settings.zone west = .ok westward.zone ∧ firstMidnight.date.BeforeLastYears ∧
        westward.target.BeforeLastYears ∧ westward.build false = .error (.date .beyond) ∧
        westward.nextNotification = .error (.date .beyond) := by
  have timely : withoutEvents.Timely :=
    ⟨by decide, by decide, List.forall_mem_nil _, List.forall_mem_nil _⟩
  refine ⟨⟨timely, rfl, rfl, rfl⟩, ?_⟩
  decide +kernel

end Calls

end Arrears
