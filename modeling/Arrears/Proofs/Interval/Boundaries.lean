import Arrears.Proofs.Interval.Notification

/-! The transitions of a built interval are just its boundaries: the start, the cycle dates behind it
up to the end, and the end itself if the interval is closed, none of them before raw usage is known.
Reading the cycle dates one after another comes to an end and finds all of them. -/

set_option autoImplicit false

namespace Arrears

/-! ## Reading cycle dates one after another -/

namespace CycleGrid

variable {grid : CycleGrid} {bound : Date}

/-- The cycle dates from the `n`th on, read until one lies behind the bound; none if the steps run out. -/
def readFrom (grid : CycleGrid) (bound : Date) : Nat → Nat → Option (Except Date.Fault (List Date))
  | 0, _ => none
  | steps + 1, n =>
    match grid.dateAt n with
    | .error fault => some (.error fault)
    | .ok date =>
      if bound < date then some (.ok [])
      else (grid.readFrom bound steps (n + 1)).map fun others => others.map (date :: ·)

-- With `more` cycle dates left, one step for each of them and one for the date behind the bound.
theorem readFrom_eq (grid : CycleGrid) (bound : Date) {n more : Nat} (left : n + more = grid.countUpTo bound) :
    grid.readFrom bound (more + 1) n =
      some (grid.dateAt (grid.countUpTo bound) >>= fun _ =>
        (List.range' n more).mapM fun (index : Nat) => grid.dateAt index) := by
  induction more generalizing n with
  | zero =>
    rw [Nat.add_zero] at left
    subst left
    unfold readFrom
    cases behind : grid.dateAt (grid.countUpTo bound) with
    | error fault => rfl
    | ok date =>
      have beyond : bound < date := by
        rw [Date.lt_def, dateAt_number behind]
        exact Int.not_le.1 fun within => Nat.lt_irrefl _ (lt_countUpTo.2 within)
      dsimp only
      rw [if_pos beyond]
      rfl
  | succ more ih =>
    have within : grid.dayAt n ≤ bound.number := lt_countUpTo.1 (by omega)
    obtain ⟨date, found⟩ := dateAt_of_le within
    have reached : ¬ bound < date := by
      rw [Date.lt_def, dateAt_number found]
      exact Int.not_lt.2 within
    rw [readFrom, found]
    dsimp only
    rw [if_neg reached, ih (by omega), List.range'_succ, List.mapM_cons, found]
    cases grid.dateAt (grid.countUpTo bound) with
    | error fault => rfl
    | ok _ => cases (List.range' (n + 1) more).mapM fun (index : Nat) => grid.dateAt index <;> rfl

/-- Reading the cycle dates up to a bound ends, after one step for each and one for the next date. -/
theorem readFrom_countUpTo (grid : CycleGrid) (bound : Date) :
    grid.readFrom bound (grid.countUpTo bound + 1) 0 = some (grid.datesUpTo bound) := by
  rw [readFrom_eq grid bound (Nat.zero_add _), datesUpTo, List.range_eq_range']

theorem mem_datesUpTo {dates : List Date} (found : grid.datesUpTo bound = .ok dates) {date : Date} :
    date ∈ dates ↔ date ≤ bound ∧ ∃ n : Nat, grid.dateAt n = .ok date := by
  obtain ⟨_, _, collected⟩ := bind_eq_ok.1 found
  rw [mem_mapM collected]
  constructor
  · rintro ⟨n, member, at_n⟩
    have within := lt_countUpTo.1 (List.mem_range.1 member)
    rw [← dateAt_number at_n] at within
    exact ⟨within, n, at_n⟩
  · rintro ⟨within, n, at_n⟩
    rw [Date.le_def, dateAt_number at_n] at within
    exact ⟨n, List.mem_range.2 (lt_countUpTo.2 within), at_n⟩

end CycleGrid

namespace UsageInterval

/-! ## The dates between a start and an end -/

section

variable {start stop rawUsageStart date : Date} {cycleDates : List Date}

theorem mem_openTransitions :
    date ∈ openTransitions start rawUsageStart cycleDates ↔
      rawUsageStart ≤ date ∧ (date = start ∨ start < date ∧ date ∈ cycleDates) := by
  have first : date ∈ (if rawUsageStart ≤ start then [start] else []) ↔ rawUsageStart ≤ date ∧ date = start := by
    rw [List.mem_ite_nil_right, List.mem_singleton]
    exact and_congr_left fun same => by rw [same]
  rw [openTransitions, List.mem_append, first, List.mem_filter]
  simp only [Bool.and_eq_true, decide_eq_true_eq]
  tauto

theorem mem_transitionsBetween {closed : Bool}
    (until_stop : ∀ date ∈ openTransitions start rawUsageStart cycleDates, date ≤ stop) :
    date ∈ transitionsBetween start stop rawUsageStart closed cycleDates ↔
      date ∈ openTransitions start rawUsageStart cycleDates ∨
        closed = true ∧ date = stop ∧ openTransitions start rawUsageStart cycleDates ≠ [] := by
  cases closed with
  | false => simp [transitionsBetween_open]
  | true =>
    by_cases none : openTransitions start rawUsageStart cycleDates = []
    · simp [transitionsBetween_eq, none]
    · have ends := getLast?_of_some_open until_stop none
      constructor
      · intro member
        rw [transitionsBetween_eq] at member
        split at member
        next => split at member <;> simp_all
        next => cases member
      · rintro (member | ⟨_, rfl, _⟩)
        · exact (open_prefix_transitionsBetween start stop rawUsageStart true cycleDates).subset member
        · exact List.mem_of_getLast? ends

end

/-! ## Building -/

/-- The dates that bound billing between a start and an end: the start, and the cycle dates behind it. -/
def IsBoundary (fresh : UsageInterval) (grid : CycleGrid) (start stop date : Date) : Prop :=
  fresh.rawUsageStart ≤ date ∧ date ≤ stop ∧
    (date = start ∨ start < date ∧ ∃ n : Nat, grid.dateAt n = .ok date)

/-- Transitions between a start and an end: in order, just the boundaries and, where a closed
interval has any, its end. -/
structure Bounds (fresh : UsageInterval) (closed : Bool) (grid : CycleGrid) (start stop : Date)
    (transitions : List Date) : Prop where
  increasing : Increasing transitions
  mem_iff : ∀ date, date ∈ transitions ↔ fresh.IsBoundary grid start stop date ∨
    closed = true ∧ date = stop ∧ ∃ other, fresh.IsBoundary grid start stop other
  within : ∀ date ∈ transitions, start ≤ date ∧ fresh.rawUsageStart ≤ date ∧ date ≤ stop
  ends : closed = true → transitions ≠ [] → transitions.getLast? = some stop

variable {fresh : UsageInterval} {grid : CycleGrid} {start stop : Date} {cycleDates : List Date}

theorem mem_openTransitions_of_cycles (cycles : grid.datesUpTo stop = .ok cycleDates) (ahead : start ≤ stop)
    {date : Date} : date ∈ openTransitions start fresh.rawUsageStart cycleDates ↔
      fresh.IsBoundary grid start stop date := by
  rw [mem_openTransitions, CycleGrid.mem_datesUpTo cycles, IsBoundary]
  refine and_congr_right fun _ => ⟨?_, ?_⟩
  · rintro (rfl | ⟨behind, within, at_n⟩)
    · exact ⟨ahead, .inl rfl⟩
    · exact ⟨within, .inr ⟨behind, at_n⟩⟩
  · rintro ⟨within, rfl | ⟨behind, at_n⟩⟩
    · exact .inl rfl
    · exact .inr ⟨behind, within, at_n⟩

theorem bounds_of_cycles (cycles : grid.datesUpTo stop = .ok cycleDates) (ahead : start ≤ stop)
    (closed : Bool) : fresh.Bounds closed grid start stop
      (transitionsBetween start stop fresh.rawUsageStart closed cycleDates) := by
  have boundary (date : Date) : date ∈ openTransitions start fresh.rawUsageStart cycleDates ↔
      fresh.IsBoundary grid start stop date := mem_openTransitions_of_cycles cycles ahead
  have until_stop : ∀ date ∈ openTransitions start fresh.rawUsageStart cycleDates, date ≤ stop :=
    openTransitions_le ahead (CycleGrid.datesUpTo_le cycles)
  have some_open : openTransitions start fresh.rawUsageStart cycleDates ≠ [] ↔
      ∃ other, fresh.IsBoundary grid start stop other := by
    constructor
    · intro some_open
      obtain ⟨other, member⟩ := List.exists_mem_of_ne_nil _ some_open
      exact ⟨other, (boundary other).1 member⟩
    · rintro ⟨other, bounds⟩
      exact List.ne_nil_of_mem ((boundary other).2 bounds)
  have from_start {date : Date} (bounds : fresh.IsBoundary grid start stop date) : start ≤ date := by
    rcases bounds.2.2 with rfl | ⟨behind, _⟩
    · exact Int.le_refl _
    · exact Int.le_of_lt behind
  have mem_iff (date : Date) : date ∈ transitionsBetween start stop fresh.rawUsageStart closed cycleDates ↔
      fresh.IsBoundary grid start stop date ∨
        closed = true ∧ date = stop ∧ ∃ other, fresh.IsBoundary grid start stop other := by
    rw [mem_transitionsBetween until_stop, boundary, some_open]
  refine ⟨increasing_transitionsBetween (CycleGrid.increasing_datesUpTo cycles) .., mem_iff, ?_, ?_⟩
  · intro date member
    rcases (mem_iff date).1 member with bounds | ⟨_, rfl, other, known, within, _⟩
    · exact ⟨from_start bounds, bounds.1, bounds.2.1⟩
    · exact ⟨ahead, Int.le_trans known within, Int.le_refl _⟩
  · rintro rfl some_transition
    refine getLast?_of_some_open until_stop fun none => some_transition ?_
    rw [transitionsBetween_eq, none]
    rfl

/-- What building finds: nothing where the target lies before the start, else just the boundaries up
to the end. Looking for cycle dates up to the end takes finitely many steps. -/
theorem built_from_boundaries {event : BillingEvent} (begins : fresh.firstEvent = .ok event)
    (dated : fresh.localDate event = .ok start) (closed : Bool) :
    (∀ (grid : CycleGrid) (stop : Date), ∃ steps,
        grid.readFrom stop steps 0 = some (grid.datesUpTo stop)) ∧
      ∀ interval, fresh.build closed = .ok interval →
        (fresh.target < start → interval.transitions = []) ∧
          (start ≤ fresh.target → ∃ stop grid, fresh.stopDate closed = .ok stop ∧
            CycleGrid.of start event.cycleDay fresh.usage.period = .ok grid ∧
              (start ≤ stop → fresh.Bounds closed grid start stop interval.transitions)) := by
  refine ⟨fun grid stop => ⟨_, grid.readFrom_countUpTo stop⟩, ?_⟩
  intro interval built
  obtain ⟨_, _, transitions, begins', dated', rfl, spaced⟩ := spaced_of_build built
  cases Except.ok.inj (begins.symm.trans begins')
  cases Except.ok.inj (dated.symm.trans dated')
  cases spaced with
  | early before => exact ⟨fun _ => rfl, fun reached => absurd reached (Int.not_le.2 before)⟩
  | between reached ends aligned cycles =>
    refine ⟨fun before => absurd reached (Int.not_le.2 before), fun _ => ?_⟩
    exact ⟨_, _, ends, aligned, fun ahead => bounds_of_cycles cycles ahead closed⟩

end UsageInterval

namespace Calls

def untilLeapDay : UsageInterval :=
  { collecting with target := march, events := [lastDays, { event with effective := .day leapDay }] }

theorem boundaries_until_leap_day :
    ∃ interval grid, untilLeapDay.build true = .ok interval ∧ CycleGrid.of january 31 .monthly = .ok grid ∧
      untilLeapDay.Bounds true grid january leapDay interval.transitions ∧
      interval.transitions = [january, ⟨738916, by decide, by decide⟩, leapDay] := by
  have built : untilLeapDay.build true =
      .ok { untilLeapDay with phase := .built [january, ⟨738916, by decide, by decide⟩, leapDay] } := by rfl
  obtain ⟨_, reached⟩ := (UsageInterval.built_from_boundaries rfl rfl true).2 _ built
  obtain ⟨stop, grid, ends, aligned, bounds⟩ := reached (by decide)
  cases Except.ok.inj ((by rfl : untilLeapDay.stopDate true = .ok leapDay).symm.trans ends)
  exact ⟨_, grid, built, aligned, bounds (by decide), rfl⟩

end Calls

end Arrears
