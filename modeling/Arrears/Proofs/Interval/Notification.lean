import Arrears.Proofs.Cycle.Following
import Arrears.Proofs.Interval.Chain

/-! When to come back. The next notification is the latest of the dates on which the events are due
again, each by the grid of its own event. Where all events share one grid, that is the first date
behind the target at which the interval would be built with one more transition. -/

set_option autoImplicit false

namespace Arrears

/-! ## The latest date -/

theorem le_later_left (date other : Date) : date ≤ date.later other := by
  unfold Date.later
  split
  next earlier => exact Int.le_of_lt earlier
  next => exact Int.le_refl _

theorem le_later_right (date other : Date) : other ≤ date.later other := by
  unfold Date.later
  split
  next => exact Int.le_refl _
  next reached => exact Int.not_lt.1 reached

theorem later_eq (date other : Date) : date.later other = date ∨ date.later other = other := by
  unfold Date.later
  split
  next => exact .inr rfl
  next => exact .inl rfl

theorem foldl_later (date : Date) (dates : List Date) :
    dates.foldl Date.later date ∈ date :: dates ∧
      ∀ other ∈ date :: dates, other ≤ dates.foldl Date.later date := by
  induction dates generalizing date with
  | nil => exact ⟨List.mem_cons_self, List.forall_mem_singleton.2 (Int.le_refl _)⟩
  | cons first dates ih =>
    obtain ⟨member, latest⟩ := ih (date.later first)
    obtain ⟨reached, latest⟩ := List.forall_mem_cons.1 latest
    rw [List.foldl_cons]
    constructor
    · rcases List.mem_cons.1 member with same | among
      · rw [same]
        rcases later_eq date first with left | right
        · rw [left]
          exact List.mem_cons_self
        · rw [right]
          exact List.mem_cons_of_mem _ List.mem_cons_self
      · exact List.mem_cons_of_mem _ (List.mem_cons_of_mem _ among)
    · refine List.forall_mem_cons.2 ⟨?_, List.forall_mem_cons.2 ⟨?_, latest⟩⟩
      · exact Int.le_trans (le_later_left date first) reached
      · exact Int.le_trans (le_later_right date first) reached

namespace UsageInterval

variable {fresh interval : UsageInterval} {event : BillingEvent} {start target next : Date}

/-! ## Due dates -/

theorem dueDate_eq_ok_iff {following : Option BillingEvent} {date : Date} :
    interval.dueDate event following = .ok date ↔
      ∃ start cut billing, interval.localDate event = .ok start ∧
        following.map interval.localDate = cut.map Except.ok ∧
        BillingInterval.of start cut interval.target event.cycleDay interval.usage.period .inArrear = .ok billing ∧
        billing.next = date := by
  cases following with
  | none =>
    constructor
    · intro due
      obtain ⟨start, dated, rest⟩ := bind_eq_ok.1 due
      obtain ⟨cut, uncut, rest⟩ := bind_eq_ok.1 rest
      cases uncut
      obtain ⟨billing, made, same⟩ := bind_eq_ok.1 rest
      exact ⟨start, none, billing, mapError_eq_ok.1 dated, rfl, made, Except.ok.inj same⟩
    · rintro ⟨start, cut, billing, dated, cuts, made, rfl⟩
      cases Option.map_eq_none_iff.1 cuts.symm
      refine bind_eq_ok.2 ⟨start, mapError_eq_ok.2 dated, bind_eq_ok.2 ⟨none, rfl, ?_⟩⟩
      exact bind_eq_ok.2 ⟨billing, made, rfl⟩
  | some other =>
    constructor
    · intro due
      obtain ⟨start, dated, rest⟩ := bind_eq_ok.1 due
      obtain ⟨cut, cuts, rest⟩ := bind_eq_ok.1 rest
      obtain ⟨stop, stops, rfl⟩ := map_eq_ok.1 cuts
      obtain ⟨billing, made, same⟩ := bind_eq_ok.1 rest
      exact ⟨start, some stop, billing, mapError_eq_ok.1 dated, congrArg some (mapError_eq_ok.1 stops), made,
        Except.ok.inj same⟩
    · rintro ⟨start, cut, billing, dated, cuts, made, rfl⟩
      obtain ⟨stop, rfl, stops⟩ := Option.map_eq_some_iff.1 cuts.symm
      refine bind_eq_ok.2 ⟨start, mapError_eq_ok.2 dated, bind_eq_ok.2 ⟨some stop, ?_, ?_⟩⟩
      · exact map_eq_ok.2 ⟨stop, mapError_eq_ok.2 stops.symm, rfl⟩
      · exact bind_eq_ok.2 ⟨billing, made, rfl⟩

/-- An event is due at the first cycle date of its own grid behind the target, or behind the event
that follows it if that comes first. -/
theorem dueDate_eq_ok {following : Option BillingEvent} {date : Date}
    (due : interval.dueDate event following = .ok date) :
    ∃ start cut grid, interval.localDate event = .ok start ∧
      following.map interval.localDate = cut.map Except.ok ∧
      CycleGrid.of start event.cycleDay interval.usage.period = .ok grid ∧
      date.number = grid.following (interval.target.cutBy cut) := by
  obtain ⟨start, cut, billing, dated, cuts, made, rfl⟩ := dueDate_eq_ok_iff.1 due
  obtain ⟨grid, _, _, _, aligned, _, stands, rfl⟩ := BillingInterval.of_eq_ok_iff.1 made
  exact ⟨start, cut, grid, dated, cuts, aligned, CycleGrid.inArrear_following stands⟩

theorem dueDates_at {events : List BillingEvent} {dates : List Date} (found : interval.dueDates events = .ok dates)
    (place : Nat) :
    dates[place]?.map Except.ok = events[place]?.map fun event => interval.dueDate event events[place + 1]? := by
  induction events generalizing dates place with
  | nil =>
    cases found
    rfl
  | cons event events ih =>
    obtain ⟨date, due, rest⟩ := bind_eq_ok.1 found
    obtain ⟨others, found_others, same⟩ := bind_eq_ok.1 rest
    cases same
    cases place with
    | zero => simp [← due, List.head?_eq_getElem?]
    | succ place => simpa using ih found_others place

theorem mem_dueDates {events : List BillingEvent} {dates : List Date} (found : interval.dueDates events = .ok dates)
    {date : Date} : date ∈ dates ↔
      ∃ (place : Nat) (event : BillingEvent), events[place]? = some event ∧
        interval.dueDate event events[place + 1]? = .ok date := by
  rw [List.mem_iff_getElem?]
  refine exists_congr fun place => ?_
  have same := dueDates_at found place
  constructor
  · intro dated
    rw [dated] at same
    exact Option.map_eq_some_iff.1 same.symm
  · rintro ⟨event, at_place, due⟩
    rw [at_place, Option.map_some, due] at same
    obtain ⟨_, dated, same⟩ := Option.map_eq_some_iff.1 same
    cases same
    exact dated

theorem exists_dueDate {events : List BillingEvent} {dates : List Date} (found : interval.dueDates events = .ok dates)
    {place : Nat} {event : BillingEvent} (at_place : events[place]? = some event) :
    ∃ date ∈ dates, interval.dueDate event events[place + 1]? = .ok date := by
  have same := dueDates_at found place
  rw [at_place] at same
  obtain ⟨date, dated, due⟩ := Option.map_eq_some_iff.1 same
  exact ⟨date, List.mem_of_getElem? dated, due.symm⟩

theorem exists_last_dueDate {events : List BillingEvent} {dates : List Date}
    (found : interval.dueDates events = .ok dates) (some_event : events ≠ []) :
    ∃ last ∈ events, ∃ date ∈ dates, interval.dueDate last none = .ok date := by
  have at_last : events[events.length - 1]? = some (events.getLast some_event) := by
    rw [← List.getLast?_eq_getElem?, List.getLast?_eq_getLast_of_ne_nil some_event]
  have none_behind : events[events.length - 1 + 1]? = none := by
    rw [List.getElem?_eq_none_iff]
    omega
  obtain ⟨date, among, due⟩ := exists_dueDate found at_last
  exact ⟨_, List.getLast_mem some_event, date, among, none_behind ▸ due⟩

theorem nextNotification_eq_ok (due : interval.nextNotification = .ok next) :
    ∃ dates, interval.dueDates interval.events = .ok dates ∧ next ∈ dates ∧ ∀ date ∈ dates, date ≤ next := by
  obtain ⟨_, _, rest⟩ := bind_eq_ok.1 due
  obtain ⟨dates, found, rest⟩ := bind_eq_ok.1 rest
  cases dates with
  | nil => cases rest
  | cons date dates =>
    cases rest
    exact ⟨date :: dates, found, foldl_later date dates⟩

theorem cutBy_le (date : Date) (cut : Option Date) : date.cutBy cut ≤ date := by
  unfold Date.cutBy
  split
  next =>
    split
    next earlier => exact Int.le_of_lt earlier
    next => exact Int.le_refl _
  next => exact Int.le_refl _

/-- Where the grids of all events agree on what follows the target, it is when to come back. -/
theorem nextNotification_of_shared {number : Int}
    (shared : ∀ event ∈ interval.events, ∀ start grid, interval.localDate event = .ok start →
      CycleGrid.of start event.cycleDay interval.usage.period = .ok grid →
        grid.following interval.target = number)
    (due : interval.nextNotification = .ok next) : next.number = number := by
  obtain ⟨dates, found, member, latest⟩ := nextNotification_eq_ok due
  obtain ⟨place, event, at_place, due⟩ := (mem_dueDates found).1 member
  apply Int.le_antisymm
  · -- an event that another follows is due no later than the last
    obtain ⟨start, cut, grid, dated, _, aligned, same⟩ := dueDate_eq_ok due
    rw [same, ← shared event (List.mem_of_getElem? at_place) start grid dated aligned]
    exact grid.following_mono (cutBy_le interval.target cut)
  · have among := List.mem_of_getElem? at_place
    obtain ⟨last, is_event, date, among, due⟩ := exists_last_dueDate found (List.ne_nil_of_mem among)
    obtain ⟨start, cut, grid, dated, cuts, aligned, same⟩ := dueDate_eq_ok due
    cases cut with
    | some stop => cases cuts
    | none =>
      rw [← shared last is_event start grid dated aligned]
      exact same.symm.le.trans (latest date among)

/-- The events bill on one grid behind the target: there is one event, or they bill by single months
on one cycle day and none of them lies behind the target. -/
def Steady (interval : UsageInterval) (event : BillingEvent) : Prop :=
  interval.events = [event] ∨ interval.usage.period = .monthly ∧ ∀ other ∈ interval.events,
    other.cycleDay = event.cycleDay ∧
      ∀ date, interval.localDate other = .ok date → date ≤ interval.target

theorem nextNotification_of_steady {grid : CycleGrid} (due : interval.nextNotification = .ok next)
    (dated : interval.localDate event = .ok start) (reached : start ≤ interval.target)
    (aligned : CycleGrid.of start event.cycleDay interval.usage.period = .ok grid)
    (steady : interval.Steady event) :
    next.number = grid.following interval.target := by
  refine nextNotification_of_shared (fun other member start' grid' dated' aligned' => ?_) due
  rcases steady with single | ⟨monthly, each⟩
  · rw [single] at member
    cases List.mem_singleton.1 member
    cases Except.ok.inj (dated.symm.trans dated')
    cases Except.ok.inj (aligned.symm.trans aligned')
    rfl
  · obtain ⟨day, not_behind⟩ := each other member
    rw [monthly] at aligned aligned'
    obtain ⟨rfl, same_day, by_months⟩ := CycleGrid.of_eq_ok aligned
    obtain ⟨rfl, same_day', by_months'⟩ := CycleGrid.of_eq_ok aligned'
    apply CycleGrid.following_eq_of_monthly (Option.some.inj by_months.symm) (Option.some.inj by_months'.symm)
    · rw [same_day', day, same_day]
    · exact reached
    · exact not_behind _ dated'

/-! ## Transitions at other targets -/

theorem openTransitions_append {stop rawUsageStart : Date} (ahead : start < stop) (cycleDates : List Date) :
    openTransitions start rawUsageStart (cycleDates ++ [stop]) =
      openTransitions start rawUsageStart cycleDates ++ if rawUsageStart ≤ stop then [stop] else [] := by
  rw [openTransitions, List.filter_append, ← List.append_assoc, ← openTransitions, List.filter_singleton,
    decide_eq_true ahead, Bool.true_and]
  congr 1
  split <;> simp_all

theorem transitionsFrom_retargeted {grid : CycleGrid} {transitions : List Date}
    (aligned : CycleGrid.of start event.cycleDay fresh.usage.period = .ok grid)
    (same : grid.countUpTo target = grid.countUpTo fresh.target)
    (found : fresh.transitionsFrom start event.cycleDay false = .ok transitions) :
    transitionsFrom { fresh with target } start event.cycleDay false = .ok transitions := by
  obtain ⟨stop, ends, rest⟩ := bind_eq_ok.1 found
  obtain ⟨billing, made, rest⟩ := bind_eq_ok.1 rest
  obtain ⟨cycleDates, up_to, between⟩ := bind_eq_ok.1 rest
  cases ends
  cases Except.ok.inj (aligned.symm.trans (BillingInterval.grid_of_eq_ok made))
  obtain ⟨again, made, kept⟩ := CycleGrid.of_retargeted made same
  rw [← CycleGrid.datesUpTo_congr same, ← kept] at up_to
  rw [transitionsBetween_open, ← transitionsBetween_open start target] at between
  exact bind_eq_ok.2 ⟨target, rfl, bind_eq_ok.2 ⟨again, made, bind_eq_ok.2 ⟨cycleDates, up_to, between⟩⟩⟩

/-- Up to the first cycle date behind the target, a later target gives the same transitions. -/
theorem build_retargeted {grid : CycleGrid} (begins : fresh.firstEvent = .ok event)
    (dated : fresh.localDate event = .ok start) (reached : start ≤ fresh.target)
    (aligned : CycleGrid.of start event.cycleDay fresh.usage.period = .ok grid)
    (later : fresh.target ≤ target) (before : target.number < grid.following fresh.target)
    (built : fresh.build false = .ok interval) :
    build { fresh with target } false = .ok { interval with target } := by
  obtain ⟨_, _, transitions, builds, rfl⟩ := build_eq_ok_iff.1 built
  cases Except.ok.inj (begins.symm.trans builds.begins)
  cases Except.ok.inj (dated.symm.trans builds.dated)
  have not_early : ¬ fresh.target < start := Int.not_lt.2 reached
  have still_not : ¬ target < start := Int.not_lt.2 (Int.le_trans reached later)
  have found := builds.found
  rw [if_neg not_early] at found
  have again := transitionsFrom_retargeted aligned (CycleGrid.countUpTo_of_before later before) found
  refine build_eq_ok_iff.2 ⟨event, start, transitions, ?_, rfl⟩
  exact { builds with found := (if_neg still_not).trans again }

theorem transitions_of_following {grid : CycleGrid} {late : UsageInterval}
    (begins : fresh.firstEvent = .ok event) (dated : fresh.localDate event = .ok start)
    (reached : start ≤ fresh.target)
    (aligned : CycleGrid.of start event.cycleDay fresh.usage.period = .ok grid)
    (same : next.number = grid.following fresh.target) (built : fresh.build false = .ok interval)
    (built_next : build { fresh with target := next } false = .ok late) :
    late.transitions = interval.transitions ++ if fresh.rawUsageStart ≤ next then [next] else [] := by
  have ahead : start < next := Int.lt_of_le_of_lt reached (same ▸ grid.lt_following fresh.target)
  obtain ⟨_, _, _, begins', dated', rfl, spaced⟩ := spaced_of_build built
  cases Except.ok.inj (begins.symm.trans begins')
  cases Except.ok.inj (dated.symm.trans dated')
  obtain ⟨_, _, _, begins', dated', rfl, spaced_next⟩ := spaced_of_build built_next
  cases Except.ok.inj (begins.symm.trans begins')
  cases Except.ok.inj (dated.symm.trans dated')
  cases spaced with
  | early before => exact absurd reached (Int.not_le.2 before)
  | between _ ends aligned' cycles =>
    cases ends
    cases Except.ok.inj (aligned.symm.trans aligned')
    cases spaced_next with
    | early before => exact absurd (Int.le_of_lt ahead) (Int.not_le.2 before)
    | between _ ends aligned' cycles_next =>
      cases ends
      cases Except.ok.inj (aligned.symm.trans aligned')
      change transitionsBetween _ _ _ _ _ = transitionsBetween _ _ _ _ _ ++ _
      rw [transitionsBetween_open, transitionsBetween_open, CycleGrid.datesUpTo_following same cycles cycles_next,
        openTransitions_append ahead]

/-- The next notification falls exactly on the next boundary. For an open interval whose events bill
on one grid it lies behind the target; at any target before it the interval is built with the same
transitions; and at a target on that day it is built with that day as one more transition, or with
the same ones if raw usage is not known yet. -/
theorem notified_at_next_transition (begins : fresh.firstEvent = .ok event)
    (dated : fresh.localDate event = .ok start) (reached : start ≤ fresh.target)
    (steady : fresh.Steady event) (built : fresh.build false = .ok interval)
    (due : interval.nextNotification = .ok next) :
    fresh.target < next ∧
      (∀ target, fresh.target ≤ target → target < next →
        build { fresh with target } false = .ok { interval with target }) ∧
      ∀ late, build { fresh with target := next } false = .ok late → late.transitions =
        interval.transitions ++ if fresh.rawUsageStart ≤ next then [next] else [] := by
  obtain ⟨_, _, _, begins', dated', same, spaced⟩ := spaced_of_build built
  cases Except.ok.inj (begins.symm.trans begins')
  cases Except.ok.inj (dated.symm.trans dated')
  cases spaced with
  | early before => exact absurd reached (Int.not_le.2 before)
  | between _ _ aligned _ =>
    subst same
    have number := nextNotification_of_steady due dated reached aligned steady
    refine ⟨?_, ?_, ?_⟩
    · rw [Date.lt_def, number]
      exact CycleGrid.lt_following _ _
    · intro target later before
      exact build_retargeted begins dated reached aligned later (number ▸ before) built
    · intro late built_next
      exact transitions_of_following begins dated reached aligned number built built_next

end UsageInterval

/-! ## Calls by the end of the month

Two events that are billed on the last day of each month, seen on the first of February. The next
cycle date is the leap day. -/

namespace Calls

def leapDay : Date := ⟨738945, by decide, by decide⟩

def lastDays : BillingEvent := { event with cycleDay := 31 }

def byLastDays : UsageInterval := { collecting with events := [lastDays, change] }

def builtLastDays : UsageInterval :=
  { byLastDays with phase := .built [january, ⟨738916, by decide, by decide⟩] }

theorem notified_on_leap_day : ∃ interval, byLastDays.build false = .ok interval ∧
    february < leapDay ∧
      (∀ target, february ≤ target → target < leapDay →
        UsageInterval.build { byLastDays with target } false = .ok { interval with target }) ∧
      ∀ late, UsageInterval.build { byLastDays with target := leapDay } false = .ok late →
        late.transitions = interval.transitions ++ if january ≤ leapDay then [leapDay] else [] := by
  have built : byLastDays.build false = .ok builtLastDays := by rfl
  have due : builtLastDays.nextNotification = .ok leapDay := by decide
  have not_behind {event : BillingEvent} {own : Date} (dated : byLastDays.localDate event = .ok own)
      (reached : own ≤ february) : ∀ date, byLastDays.localDate event = .ok date → date ≤ february :=
    fun date found => Except.ok.inj (dated.symm.trans found) ▸ reached
  have steady : byLastDays.Steady lastDays := by
    refine .inr ⟨rfl, List.forall_mem_cons.2 ⟨⟨rfl, ?_⟩, List.forall_mem_singleton.2 ⟨rfl, ?_⟩⟩⟩
    · exact not_behind rfl (by decide : january ≤ february)
    · exact not_behind rfl (by decide : midJanuary ≤ february)
  have reached : january ≤ byLastDays.target := by decide
  exact ⟨builtLastDays, built, UsageInterval.notified_at_next_transition rfl rfl reached steady built due⟩

end Calls

end Arrears
