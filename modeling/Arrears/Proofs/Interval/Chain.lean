import Arrears.Proofs.Cycle.Bound
import Arrears.Proofs.Cycle.Usage
import Arrears.Proofs.Interval.Run

/-! Usage across changes of a subscription. Between each two events that follow each other lies a
closed interval, and an open one behind the last. Each closed interval runs up to the start of the
next, so that all of them together share out the records from the first event on, none of them
twice. -/

set_option autoImplicit false

namespace Arrears

theorem increasing_append {front back : List Date} {middle : Date}
    (before : Increasing (front ++ [middle])) (after : Increasing (middle :: back)) :
    Increasing (front ++ middle :: back) := by
  obtain ⟨ordered, _, until_middle⟩ := List.pairwise_append.1 before
  obtain ⟨from_middle, _⟩ := List.pairwise_cons.1 after
  refine List.pairwise_append.2 ⟨ordered, after, ?_⟩
  intro early member late among
  have reached : early < middle := until_middle early member middle List.mem_cons_self
  rcases List.mem_cons.1 among with rfl | later
  · exact reached
  · exact Int.lt_trans reached (from_middle late later)

namespace UsageInterval

/-- A closed interval for each two events that follow each other, and an open one for the last. -/
def buildChain (base : UsageInterval) : List BillingEvent → Except Error (List UsageInterval)
  | [] => .ok []
  | [event] => do
    let opened ← build { base with events := [event] } false
    return [opened]
  | event :: next :: events => do
    let closed ← build { base with events := [event, next] } true
    let others ← base.buildChain (next :: events)
    return closed :: others

variable {base interval : UsageInterval} {event : BillingEvent} {start : Date}

theorem rolledUp_built {fresh : UsageInterval} (begins : fresh.firstEvent = .ok event)
    (transitions : List Date) :
    rolledUp { fresh with phase := .built transitions } =
      .ok (Rollup.rollUp transitions fresh.rawUsage fresh.usage.usageType event.subscriptionId) := by
  have first : firstEvent { fresh with phase := .built transitions } = .ok event := begins
  rw [rolledUp, first]
  rfl

/-- A built interval whose usage is known from its start on: it is billed from there, and shares out
the records between its transitions. -/
theorem shares_of_build {events : List BillingEvent} {closed : Bool}
    (built : build { base with events := event :: events } closed = .ok interval)
    (dated : base.localDate event = .ok start) (known : base.rawUsageStart ≤ start)
    (reached : start ≤ base.target) (chronological : Rollup.Chronological base.rawUsage) :
    (∃ more, interval.transitions = start :: more) ∧ Increasing interval.transitions ∧
      ∃ rolled, interval.rolledUp = .ok rolled ∧
        Rollup.Shares base.usage.usageType base.rawUsage interval.transitions rolled := by
  obtain ⟨_, _, transitions, begins, dated', rfl, spaced⟩ := spaced_of_build built
  cases begins
  cases Except.ok.inj (dated.symm.trans dated')
  have increasing := spaced.increasing
  refine ⟨?_, increasing, _, rolledUp_built rfl transitions, Rollup.shares_rollUp chronological increasing⟩
  cases spaced with
  | early before => exact absurd reached (Int.not_le.2 before)
  | between _ _ _ _ =>
    obtain ⟨more, same⟩ := openTransitions_of_known known _
    obtain ⟨added, whole⟩ := open_prefix_transitionsBetween start _ base.rawUsageStart closed _
    rw [same] at whole
    exact ⟨more ++ added, whole.symm⟩

theorem getLast?_of_build {next : BillingEvent} {stop : Date}
    (built : build { base with events := [event, next] } true = .ok interval)
    (dated : base.localDate event = .ok start) (ends : base.localDate next = .ok stop)
    (known : base.rawUsageStart ≤ start) (reached : start ≤ base.target) (ahead : start ≤ stop) :
    interval.transitions.getLast? = some stop := by
  obtain ⟨_, _, transitions, begins, dated', rfl, spaced⟩ := spaced_of_build built
  cases begins
  cases Except.ok.inj (dated.symm.trans dated')
  cases spaced with
  | early before => exact absurd reached (Int.not_le.2 before)
  | between _ stops _ cycles =>
    cases Except.ok.inj (ends.symm.trans stops)
    exact getLast?_transitionsBetween known ahead (CycleGrid.datesUpTo_le cycles)

theorem transitions_of_build {next : BillingEvent} {stop : Date}
    (built : build { base with events := [event, next] } true = .ok interval)
    (dated : base.localDate event = .ok start) (ends : base.localDate next = .ok stop)
    (known : base.rawUsageStart ≤ start) (reached : start ≤ base.target) (ahead : start < stop)
    {more : List Date} (starts : interval.transitions = start :: more) :
    ∃ front, interval.transitions = (start :: front) ++ [stop] := by
  have last := getLast?_of_build built dated ends known reached (Int.le_of_lt ahead)
  obtain ⟨front, joined⟩ := List.getLast?_eq_some_iff.1 last
  cases front with
  | nil =>
    rw [starts, List.nil_append, List.cons.injEq] at joined
    rw [joined.1] at ahead
    exact absurd ahead (Int.lt_irrefl _)
  | cons other front =>
    rw [starts, List.cons_append, List.cons.injEq] at joined
    exact ⟨front, by rw [starts, joined.2, List.cons_append]⟩

/-- The intervals of a chain together share out the records from the first event up to the last
transition of the open interval. -/
theorem shares_of_chain {events : List BillingEvent} {first : Date} {more : List Date}
    {intervals : List UsageInterval} (dated : events.mapM base.localDate = .ok (first :: more))
    (ordered : Increasing (first :: more)) (known : base.rawUsageStart ≤ first)
    (reached : ∀ date ∈ first :: more, date ≤ base.target)
    (chronological : Rollup.Chronological base.rawUsage)
    (built : base.buildChain events = .ok intervals) :
    ∃ rolled opened last transitions, intervals.mapM rolledUp = .ok rolled ∧
      intervals.getLast? = some opened ∧ opened.transitions.getLast? = some last ∧
      (first :: transitions).getLast? = some last ∧ Increasing (first :: transitions) ∧
      Rollup.Shares base.usage.usageType base.rawUsage (first :: transitions) rolled.flatten := by
  induction events generalizing first more intervals with
  | nil => cases mapM_nil_eq_ok.1 dated
  | cons event events ih =>
    obtain ⟨_, _, dated_first, dated_more, same⟩ := mapM_cons_eq_ok.1 dated
    cases same
    have reached_first := reached first List.mem_cons_self
    cases events with
    | nil =>
      obtain ⟨opened, built_open, same⟩ := bind_eq_ok.1 built
      cases same
      obtain ⟨⟨transitions, starts⟩, increasing, rolled, found, shares⟩ :=
        shares_of_build built_open dated_first known reached_first chronological
      obtain ⟨last, ends⟩ : ∃ last, opened.transitions.getLast? = some last := by
        rw [starts]
        exact ⟨_, List.getLast?_eq_some_getLast (List.cons_ne_nil _ _)⟩
      refine ⟨[rolled], opened, last, transitions, ?_, rfl, ends, starts ▸ ends, starts ▸ increasing, ?_⟩
      · exact mapM_cons_eq_ok.2 ⟨rolled, [], found, rfl, rfl⟩
      · rw [List.flatten_singleton, ← starts]
        exact shares
    | cons next events =>
      obtain ⟨closed, built_closed, rest⟩ := bind_eq_ok.1 built
      obtain ⟨others, built_others, same⟩ := bind_eq_ok.1 rest
      cases same
      obtain ⟨second, later, dated_second, dated_later, rfl⟩ := mapM_cons_eq_ok.1 dated_more
      obtain ⟨beyond, ordered⟩ := List.pairwise_cons.1 ordered
      have ahead : first < second := beyond second List.mem_cons_self
      obtain ⟨⟨_, starts⟩, increasing, rolled, found, shares⟩ :=
        shares_of_build built_closed dated_first known reached_first chronological
      obtain ⟨rolled_others, opened, last, transitions, found_others, opens, ends_open, ends_all,
          increasing_others, shares_others⟩ :=
        ih dated_more ordered (Int.le_trans known (Int.le_of_lt ahead))
          (fun date member => reached date (List.mem_cons_of_mem _ member)) built_others
      -- the closed interval stops where the next begins
      obtain ⟨front, joined⟩ :=
        transitions_of_build built_closed dated_first dated_second known reached_first ahead starts
      rw [joined] at increasing shares
      refine ⟨rolled :: rolled_others, opened, last, front ++ second :: transitions, ?_, ?_, ends_open, ?_,
        increasing_append increasing increasing_others, ?_⟩
      · exact mapM_cons_eq_ok.2 ⟨rolled, rolled_others, found, found_others, rfl⟩
      · rw [List.getLast?_cons, opens, Option.getD_some]
      · rw [← List.cons_append, List.getLast?_append, ends_all, Option.some_or]
      · rw [List.flatten_cons]
        exact shares.append shares_others

/-- Across changes of a subscription no usage is lost and none is counted twice. What the intervals
roll up lies in times that do not overlap, each with just its own records; every record from the
first event up to the last transition of the open interval lies in one of these times, and every
other record in none. So consumable usage of a unit adds up to what the records have of it. -/
theorem usage_rolled_up_once {events : List BillingEvent} {first : Date} {more : List Date}
    {intervals : List UsageInterval} (dated : events.mapM base.localDate = .ok (first :: more))
    (ordered : Increasing (first :: more)) (known : base.rawUsageStart ≤ first)
    (reached : ∀ date ∈ first :: more, date ≤ base.target)
    (chronological : Rollup.Chronological base.rawUsage)
    (built : base.buildChain events = .ok intervals) :
    ∃ rolled opened last, intervals.mapM rolledUp = .ok rolled ∧ intervals.getLast? = some opened ∧
      opened.transitions.getLast? = some last ∧
      (rolled.flatten.Pairwise fun usage later => usage.stop ≤ later.start) ∧
      (∀ usage ∈ rolled.flatten, usage.start < usage.stop ∧ usage.units =
        Rollup.units base.usage.usageType (Rollup.within usage.start usage.stop base.rawUsage)) ∧
      (∀ record ∈ base.rawUsage, rolled.flatten.countP (fun usage =>
          decide (usage.start ≤ record.date ∧ record.date < usage.stop)) =
        if first ≤ record.date ∧ record.date < last then 1 else 0) ∧
      (base.usage.usageType = .consumable → ∀ unit,
        Rollup.usedOf unit (rolled.flatten.flatMap RolledUsage.units) =
          Rollup.recordedOf unit (Rollup.within first last base.rawUsage)) := by
  obtain ⟨rolled, opened, last, transitions, found, opens, ends, ends_all, increasing, shares⟩ :=
    shares_of_chain dated ordered known reached chronological built
  refine ⟨rolled, opened, last, found, opens, ends, shares.disjoint increasing, ?_, ?_, ?_⟩
  · exact fun usage member => ⟨shares.forward increasing usage member, shares.units usage member⟩
  · exact fun record member => shares.countP rfl ends_all increasing member
  · intro consumable unit
    rw [consumable] at shares
    exact shares.usedOf rfl ends_all increasing unit

end UsageInterval

/-! ## Calls across a change

The plan changes in the middle of January, to one that is billed on the last day of each month. -/

namespace Calls

def midJanuary : Date := ⟨738900, by decide, by decide⟩

def change : BillingEvent :=
  { event with effective := .day midJanuary, cycleDay := 31, planName := "plan-2" }

def changing : UsageInterval :=
  { collecting with
    target := march
    rawUsage := [⟨january, "minutes", some 25⟩, ⟨midJanuary, "minutes", none⟩,
      ⟨february, "minutes", some 7⟩, ⟨march, "minutes", some 40⟩] }

theorem rolled_up_once_changing : ∃ intervals, changing.buildChain [event, change] = .ok intervals ∧
    ∃ rolled opened last, intervals.mapM UsageInterval.rolledUp = .ok rolled ∧
      intervals.getLast? = some opened ∧ opened.transitions.getLast? = some last ∧
      (rolled.flatten.Pairwise fun usage later => usage.stop ≤ later.start) ∧
      (∀ usage ∈ rolled.flatten, usage.start < usage.stop ∧ usage.units =
        Rollup.units .consumable (Rollup.within usage.start usage.stop changing.rawUsage)) ∧
      (∀ record ∈ changing.rawUsage, rolled.flatten.countP (fun usage =>
          decide (usage.start ≤ record.date ∧ record.date < usage.stop)) =
        if january ≤ record.date ∧ record.date < last then 1 else 0) ∧
      ∀ unit, Rollup.usedOf unit (rolled.flatten.flatMap RolledUsage.units) =
        Rollup.recordedOf unit (Rollup.within january last changing.rawUsage) := by
  obtain ⟨intervals, built⟩ : ∃ intervals, changing.buildChain [event, change] = .ok intervals := ⟨_, rfl⟩
  have dated : [event, change].mapM changing.localDate = .ok [january, midJanuary] := rfl
  have ordered : Increasing [january, midJanuary] :=
    List.pairwise_pair.2 (by decide)
  have reached : ∀ date ∈ [january, midJanuary], date ≤ changing.target := by decide
  have chronological : Rollup.Chronological changing.rawUsage := by
    simp only [Rollup.Chronological]
    decide
  obtain ⟨rolled, opened, last, found, opens, ends, disjoint, own, once, sums⟩ :=
    UsageInterval.usage_rolled_up_once dated ordered (by decide) reached chronological built
  exact ⟨intervals, built, rolled, opened, last, found, opens, ends, disjoint, own, once, sums rfl⟩

end Calls

end Arrears
