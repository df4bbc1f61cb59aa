import Arrears.Proofs.Cycle.Standing
import Arrears.Proofs.Interval.Notification

/-! The next notification always advances. It is the latest of the dates on which the events are due
again, each at the first cycle date of its own grid behind the target, or behind the event that
follows it if that comes first. The last event is followed by none, so that the notification lies
behind the target, and a later target never makes it earlier. -/

set_option autoImplicit false

namespace Arrears

theorem cutBy_mono {date later : Date} (ordered : date ≤ later) (cut : Option Date) :
    date.cutBy cut ≤ later.cutBy cut := by
  simp only [Date.le_def] at *
  cases cut with
  | none => exact ordered
  | some stop =>
    simp only [Date.cutBy, Date.lt_def]
    split <;> split <;> omega

namespace UsageInterval

variable {interval : UsageInterval} {event : BillingEvent} {following : Option BillingEvent} {date next : Date}

/-! ## Due dates among cycle dates -/

/-- The grid on which an event is billed, and the date at which the event that follows it cuts it. -/
structure BilledOn (interval : UsageInterval) (event : BillingEvent) (following : Option BillingEvent)
    (grid : CycleGrid) (cut : Option Date) : Prop where
  aligned : ∃ start, interval.localDate event = .ok start ∧
    CycleGrid.of start event.cycleDay interval.usage.period = .ok grid
  cuts : following.map interval.localDate = cut.map Except.ok

theorem BilledOn.unique {grid other : CycleGrid} {cut cut' : Option Date}
    (billed : interval.BilledOn event following grid cut) (also : interval.BilledOn event following other cut') :
    grid = other ∧ cut = cut' := by
  obtain ⟨start, dated, aligned⟩ := billed.aligned
  obtain ⟨start', dated', aligned'⟩ := also.aligned
  cases Except.ok.inj (dated.symm.trans dated')
  refine ⟨Except.ok.inj (aligned.symm.trans aligned'), ?_⟩
  exact Option.map_injective (fun _ _ same => Except.ok.inj same) (billed.cuts.symm.trans also.cuts)

theorem billedOn_of_dueDate (due : interval.dueDate event following = .ok date) :
    ∃ grid cut, interval.BilledOn event following grid cut ∧
      date.number = grid.following (interval.target.cutBy cut) := by
  obtain ⟨start, cut, grid, dated, cuts, aligned, number⟩ := dueDate_eq_ok due
  exact ⟨grid, cut, ⟨⟨start, dated, aligned⟩, cuts⟩, number⟩

/-- When the event at a place of an interval is due again: at the least cycle date of its own grid
behind the target, or behind the event at the next place if that comes first. -/
def IsDue (interval : UsageInterval) (place : Nat) (date : Date) : Prop :=
  ∃ event grid cut, interval.events[place]? = some event ∧
    interval.BilledOn event interval.events[place + 1]? grid cut ∧
    IsLeast {date | interval.target.cutBy cut < date ∧ date ∈ grid.cycleDates} date

theorem isDue_of_dueDate {place : Nat} (at_place : interval.events[place]? = some event)
    (due : interval.dueDate event interval.events[place + 1]? = .ok date) : interval.IsDue place date := by
  obtain ⟨grid, cut, billed, number⟩ := billedOn_of_dueDate due
  exact ⟨event, grid, cut, at_place, billed, CycleGrid.isLeast_following number⟩

theorem le_of_isDue {place : Nat} {other : Date} (at_place : interval.events[place]? = some event)
    (due : interval.dueDate event interval.events[place + 1]? = .ok date) (also : interval.IsDue place other) :
    other ≤ date := by
  obtain ⟨event', grid, cut, at_place', billed, least⟩ := also
  cases Option.some.inj (at_place.symm.trans at_place')
  obtain ⟨grid', cut', billed', number⟩ := billedOn_of_dueDate due
  obtain ⟨rfl, rfl⟩ := billed.unique billed'
  exact least.2 (CycleGrid.isLeast_following number).1

/-! ## The latest of them -/

variable {dates : List Date}

theorem isGreatest_latest (found : interval.dueDates interval.events = .ok dates) (member : next ∈ dates)
    (latest : ∀ date ∈ dates, date ≤ next) : IsGreatest {date | ∃ place, interval.IsDue place date} next := by
  constructor
  · obtain ⟨place, event, at_place, due⟩ := (mem_dueDates found).1 member
    exact ⟨place, isDue_of_dueDate at_place due⟩
  · rintro date ⟨place, is_due⟩
    have ⟨event, _, _, at_place, _⟩ := is_due
    obtain ⟨own, among, due⟩ := exists_dueDate found at_place
    exact Int.le_trans (le_of_isDue at_place due is_due) (latest own among)

theorem exists_due_behind (found : interval.dueDates interval.events = .ok dates) (some_event : interval.events ≠ []) :
    ∃ date ∈ dates, interval.target < date := by
  obtain ⟨last, _, date, among, due⟩ := exists_last_dueDate found some_event
  obtain ⟨grid, cut, billed, number⟩ := billedOn_of_dueDate due
  have uncut : cut = none := Option.map_eq_none_iff.1 billed.cuts.symm
  refine ⟨date, among, ?_⟩
  rw [Date.lt_def, number, uncut]
  exact grid.lt_following _

theorem dueDate_mono {target later : Date} (ordered : interval.target ≤ target)
    (due : interval.dueDate event following = .ok date)
    (due_later : dueDate { interval with target } event following = .ok later) : date ≤ later := by
  obtain ⟨grid, cut, billed, number⟩ := billedOn_of_dueDate due
  obtain ⟨grid', cut', billed', number'⟩ := billedOn_of_dueDate due_later
  have again : interval.BilledOn event following grid' cut' := ⟨billed'.aligned, billed'.cuts⟩
  obtain ⟨rfl, rfl⟩ := billed.unique again
  rw [Date.le_def, number, number']
  exact grid.following_mono (cutBy_mono ordered cut)

/-- The latest of the dates on which the events of an interval are due again. Each event has such a
date; the latest lies behind the target, and with a later target it is no earlier. -/
structure LatestDue (interval : UsageInterval) (next : Date) : Prop where
  latest : IsGreatest {date | ∃ place, interval.IsDue place date} next
  each_due : ∀ place < interval.events.length, ∃ date, interval.IsDue place date
  behind_target : interval.target < next
  no_earlier : ∀ target later, interval.target ≤ target →
    nextNotification { interval with target } = .ok later → next ≤ later

/-- The next notification always advances. -/
theorem notified_at_latest_due (due : interval.nextNotification = .ok next) : interval.LatestDue next := by
  obtain ⟨dates, found, member, latest⟩ := nextNotification_eq_ok due
  obtain ⟨place, event, at_place, due⟩ := (mem_dueDates found).1 member
  refine ⟨isGreatest_latest found member latest, ?_, ?_, ?_⟩
  · intro other within
    obtain ⟨date, _, due⟩ := exists_dueDate found (List.getElem?_eq_getElem within)
    exact ⟨date, isDue_of_dueDate (List.getElem?_eq_getElem within) due⟩
  · obtain ⟨date, among, behind⟩ := exists_due_behind found (List.ne_nil_of_mem (List.mem_of_getElem? at_place))
    exact Int.lt_of_lt_of_le behind (latest date among)
  · intro target later ordered due_later
    -- the event that is due last is due no earlier at the later target
    obtain ⟨dates', found', _, latest'⟩ := nextNotification_eq_ok due_later
    obtain ⟨date, among, due'⟩ := exists_dueDate found' at_place
    exact Int.le_trans (dueDate_mono ordered due due') (latest' date among)

end UsageInterval

namespace Calls

def outOfOrder : UsageInterval :=
  { collecting with target := ⟨738800, by decide, by decide⟩, events := [change, event] }

theorem outOfOrder_notified : outOfOrder.nextNotification = .ok ⟨738916, by decide, by decide⟩ ∧
    outOfOrder.LatestDue ⟨738916, by decide, by decide⟩ := by
  have due : outOfOrder.nextNotification = .ok ⟨738916, by decide, by decide⟩ := by decide +kernel
  exact ⟨due, UsageInterval.notified_at_latest_due due⟩

end Calls

end Arrears
