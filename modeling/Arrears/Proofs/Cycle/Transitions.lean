import Arrears.Interval.Build
import Arrears.Proofs.Outcome
import Mathlib.Order.SuccPred.IntervalSucc
import Mathlib.Order.Monotone.Basic

/-! The transitions of a built interval come in order, each once: the cycle dates do, the start lies
before those that are kept, and the end behind them. So consecutive pairs of them do not overlap,
and none lies within another. -/

set_option autoImplicit false

namespace Arrears

def Increasing (dates : List Date) : Prop := dates.Pairwise (· < ·)

/-! ## Cycle dates -/

theorem alignedDay_lt_monthStart (index cycleDay : Int) :
    alignedDay index cycleDay < Calendar.monthStart (index + 1) := by
  unfold alignedDay Calendar.monthLength
  omega

theorem monthStart_le_alignedDay {cycleDay : Int} (positive : 1 ≤ cycleDay) (index : Int) :
    Calendar.monthStart index ≤ alignedDay index cycleDay := by
  have := Calendar.le_monthLength index
  unfold alignedDay
  omega

theorem alignedDay_lt {cycleDay m n : Int} (positive : 1 ≤ cycleDay) (earlier : m < n) :
    alignedDay m cycleDay < alignedDay n cycleDay := by
  have steps : StrictMono fun index => alignedDay index cycleDay := by
    apply strictMono_int_of_lt_succ
    intro index
    exact lt_of_lt_of_le (alignedDay_lt_monthStart index cycleDay) (monthStart_le_alignedDay positive _)
  exact steps earlier

namespace CycleGrid

theorem monthAt_lt {grid : CycleGrid} {m n : Int} (earlier : m < n) : grid.monthAt m < grid.monthAt n := by
  have positive : (0 : Int) < grid.cycle.count := Int.natCast_pos.2 grid.count_pos
  have := Int.mul_lt_mul_of_pos_right earlier positive
  unfold monthAt
  omega

theorem dayAt_lt {grid : CycleGrid} {m n : Int} (earlier : m < n) : grid.dayAt m < grid.dayAt n := by
  unfold dayAt
  split
  next count same =>
    have positive : (0 : Int) < count := by
      have counted := grid.count_pos
      rw [same] at counted
      exact Int.natCast_pos.2 counted
    have := Int.mul_lt_mul_of_pos_right earlier positive
    omega
  next => exact alignedDay_lt grid.day_pos (monthAt_lt earlier)

theorem dateAt_number {grid : CycleGrid} {n : Int} {date : Date} (found : grid.dateAt n = .ok date) :
    date.number = grid.dayAt n := by
  unfold dateAt at found
  split at found
  next same => cases found; exact Date.ofNumber?_eq_some.1 same
  next => cases found

theorem increasing_datesUpTo {grid : CycleGrid} {bound : Date} {dates : List Date}
    (found : grid.datesUpTo bound = .ok dates) : Increasing dates := by
  obtain ⟨_, _, collected⟩ := bind_eq_ok.1 found
  apply pairwise_mapM List.pairwise_lt_range collected
  intro m n first second earlier at_m at_n
  rw [Date.lt_def, dateAt_number at_m, dateAt_number at_n]
  exact dayAt_lt (Int.ofNat_lt.2 earlier)

end CycleGrid

/-! ## Billing intervals -/

def CycleGrid.stand (grid : CycleGrid) (mode : BillingMode) (stop : Option Date) (target : Date) :
    Except Date.Fault (Option Date × Date) :=
  match mode with
  | .inArrear => grid.inArrear stop target
  | .inAdvance => grid.inAdvance stop target

theorem BillingInterval.of_eq_ok_iff {start target : Date} {stop : Option Date} {cycleDay : Int}
    {period : BillingPeriod} {mode : BillingMode} {billing : BillingInterval} :
    BillingInterval.of start stop target cycleDay period mode = .ok billing ↔
      ∃ grid first last next, CycleGrid.of start cycleDay period = .ok grid ∧ grid.dateAt 0 = .ok first ∧
        grid.stand mode stop target = .ok (last, next) ∧
          billing = { start, stop, target, period, mode, grid, first, last, next } := by
  constructor
  · intro made
    obtain ⟨grid, aligned, rest⟩ := bind_eq_ok.1 made
    obtain ⟨first, begins, rest⟩ := bind_eq_ok.1 rest
    have stands : ∃ last next, grid.stand mode stop target = .ok (last, next) ∧
        billing = { start, stop, target, period, mode, grid, first, last, next } := by
      cases mode <;>
        (obtain ⟨⟨last, next⟩, stands, same⟩ := bind_eq_ok.1 rest
         exact ⟨last, next, mapError_eq_ok.1 stands, (Except.ok.inj same).symm⟩)
    obtain ⟨last, next, stands, same⟩ := stands
    exact ⟨grid, first, last, next, aligned, mapError_eq_ok.1 begins, stands, same⟩
  · rintro ⟨grid, first, last, next, aligned, begins, stands, rfl⟩
    refine bind_eq_ok.2 ⟨grid, aligned, bind_eq_ok.2 ⟨first, mapError_eq_ok.2 begins, ?_⟩⟩
    cases mode <;> exact bind_eq_ok.2 ⟨(last, next), mapError_eq_ok.2 stands, rfl⟩

theorem BillingInterval.grid_of_eq_ok {start target : Date} {stop : Option Date} {cycleDay : Int}
    {period : BillingPeriod} {mode : BillingMode} {billing : BillingInterval}
    (made : BillingInterval.of start stop target cycleDay period mode = .ok billing) :
    CycleGrid.of start cycleDay period = .ok billing.grid := by
  obtain ⟨_, _, _, _, aligned, _, _, rfl⟩ := of_eq_ok_iff.1 made
  exact aligned

/-! ## Transitions -/

theorem le_last {dates : List Date} {last : Date} (increasing : Increasing dates)
    (ends : dates.getLast? = some last) : ∀ date ∈ dates, date ≤ last := by
  intro date member
  obtain ⟨front, rfl⟩ := List.getLast?_eq_some_iff.1 ends
  rcases List.mem_append.1 member with before | same
  · exact Int.le_of_lt ((List.pairwise_append.1 increasing).2.2 date before last List.mem_cons_self)
  · cases List.mem_singleton.1 same
    exact Int.le_refl _

namespace UsageInterval

theorem increasing_transitionsBetween {cycleDates : List Date} (increasing : Increasing cycleDates)
    (start stop rawUsageStart : Date) (closed : Bool) :
    Increasing (transitionsBetween start stop rawUsageStart closed cycleDates) := by
  unfold transitionsBetween
  dsimp only
  generalize upToStop_eq : (if rawUsageStart ≤ start then [start] else []) ++
    cycleDates.filter (fun date => decide (start < date) && decide (rawUsageStart ≤ date)) = upToStop
  -- the cycle dates that are kept lie behind the start, and the end only joins if it lies behind all
  have upToStop_increasing : Increasing upToStop := by
    subst upToStop_eq
    refine List.pairwise_append.2 ⟨?_, increasing.filter _, ?_⟩
    · split
      · exact List.pairwise_singleton _ _
      · exact List.Pairwise.nil
    · intro first first_member date member
      split at first_member
      · cases List.mem_singleton.1 first_member
        have kept := (List.mem_filter.1 member).2
        simp only [Bool.and_eq_true, decide_eq_true_eq] at kept
        exact kept.1
      · exact absurd first_member List.not_mem_nil
  split
  next last ends =>
    split
    next closes =>
      simp only [Bool.and_eq_true, decide_eq_true_eq] at closes
      refine List.pairwise_append.2 ⟨upToStop_increasing, List.pairwise_singleton _ _, ?_⟩
      intro date member other same
      cases List.mem_singleton.1 same
      exact Int.lt_of_le_of_lt (le_last upToStop_increasing ends date member) closes.2
    next => exact upToStop_increasing
  next => exact List.Pairwise.nil

/-- The ways in which building finds transitions: none where the target lies before the start, else
those between the start and the end, out of the cycle dates up to the end. -/
inductive Spaced (fresh : UsageInterval) (closed : Bool) (event : BillingEvent) (start : Date) :
    List Date → Prop
  | early (before : fresh.target < start) : Spaced fresh closed event start []
  | between {stop : Date} {grid : CycleGrid} {cycleDates : List Date}
      (reached : start ≤ fresh.target) (ends : fresh.stopDate closed = .ok stop)
      (aligned : CycleGrid.of start event.cycleDay fresh.usage.period = .ok grid)
      (cycles : grid.datesUpTo stop = .ok cycleDates) :
      Spaced fresh closed event start
        (transitionsBetween start stop fresh.rawUsageStart closed cycleDates)

/-- What a successful build rests on: the interval still collects events, there are enough of them,
and the transitions are found from the date of the first. -/
structure Builds (fresh : UsageInterval) (closed : Bool) (event : BillingEvent) (start : Date)
    (transitions : List Date) : Prop where
  collecting : fresh.requireCollecting = .ok ()
  enough : ¬ fresh.events.length < requiredEvents closed
  begins : fresh.firstEvent = .ok event
  dated : fresh.localDate event = .ok start
  found : (if fresh.target < start then .ok [] else fresh.transitionsFrom start event.cycleDay closed) =
    .ok transitions

theorem build_eq_ok_iff {fresh interval : UsageInterval} {closed : Bool} :
    fresh.build closed = .ok interval ↔ ∃ event start transitions,
      Builds fresh closed event start transitions ∧ interval = { fresh with phase := .built transitions } := by
  constructor
  · intro built
    obtain ⟨_, collecting, rest⟩ := bind_eq_ok.1 built
    dsimp only at rest
    split at rest
    next => cases rest
    next enough =>
      obtain ⟨event, first, rest⟩ := bind_eq_ok.1 rest
      obtain ⟨start, dated, rest⟩ := bind_eq_ok.1 rest
      have opened {transitions : List Date}
          (found : (if fresh.target < start then .ok [] else fresh.transitionsFrom start event.cycleDay closed) =
            .ok transitions) : Builds fresh closed event start transitions :=
        ⟨mapError_eq_ok.1 collecting, enough, mapError_eq_ok.1 first, mapError_eq_ok.1 dated, found⟩
      split at rest
      next before =>
        cases rest
        exact ⟨event, start, [], opened (if_pos before), rfl⟩
      next reached =>
        obtain ⟨transitions, found, same⟩ := bind_eq_ok.1 rest
        cases same
        exact ⟨event, start, transitions, opened ((if_neg reached).trans found), rfl⟩
  · rintro ⟨event, start, transitions, builds, rfl⟩
    refine bind_eq_ok.2 ⟨(), mapError_eq_ok.2 builds.collecting, ?_⟩
    dsimp only
    rw [if_neg builds.enough]
    refine bind_eq_ok.2 ⟨event, mapError_eq_ok.2 builds.begins, ?_⟩
    refine bind_eq_ok.2 ⟨start, mapError_eq_ok.2 builds.dated, ?_⟩
    have found := builds.found
    split at found
    next before =>
      cases found
      rw [if_pos before]
      rfl
    next reached =>
      rw [if_neg reached]
      exact bind_eq_ok.2 ⟨transitions, found, rfl⟩

/-- What building leaves: the interval with its transitions, spaced from the date of its first event. -/
theorem spaced_of_build {fresh interval : UsageInterval} {closed : Bool}
    (built : fresh.build closed = .ok interval) :
    ∃ event start transitions, fresh.firstEvent = .ok event ∧ fresh.localDate event = .ok start ∧
      interval = { fresh with phase := .built transitions } ∧
      Spaced fresh closed event start transitions := by
  obtain ⟨event, start, transitions, builds, same⟩ := build_eq_ok_iff.1 built
  refine ⟨event, start, transitions, builds.begins, builds.dated, same, ?_⟩
  have found := builds.found
  split at found
  next before =>
    cases found
    exact .early before
  next reached =>
    obtain ⟨stop, ends, rest⟩ := bind_eq_ok.1 found
    obtain ⟨billing, made, rest⟩ := bind_eq_ok.1 rest
    obtain ⟨cycleDates, up_to, between⟩ := bind_eq_ok.1 rest
    cases between
    exact .between (Int.not_lt.1 reached) (mapError_eq_ok.1 ends) (BillingInterval.grid_of_eq_ok made) (mapError_eq_ok.1 up_to)

theorem Spaced.increasing {fresh : UsageInterval} {closed : Bool} {event : BillingEvent} {start : Date}
    {transitions : List Date} (spaced : Spaced fresh closed event start transitions) :
    Increasing transitions := by
  cases spaced with
  | early => exact List.Pairwise.nil
  | between _ _ _ cycles =>
    exact increasing_transitionsBetween (CycleGrid.increasing_datesUpTo cycles) start _ _ closed

theorem build_eq_ok {fresh interval : UsageInterval} {closed : Bool}
    (built : fresh.build closed = .ok interval) :
    ∃ transitions, interval = { fresh with phase := .built transitions } ∧ Increasing transitions := by
  obtain ⟨_, _, transitions, _, _, same, spaced⟩ := spaced_of_build built
  exact ⟨transitions, same, spaced.increasing⟩

theorem increasing_of_build {fresh interval : UsageInterval} {closed : Bool}
    (built : fresh.build closed = .ok interval) : Increasing interval.transitions := by
  obtain ⟨transitions, rfl, increasing⟩ := build_eq_ok built
  exact increasing

end UsageInterval

/-! ## Consecutive pairs -/

namespace Rollup

theorem pairs_cons (first second : Date) (dates : List Date) :
    pairs (first :: second :: dates) = (first, second) :: pairs (second :: dates) := rfl

theorem mem_pairs {first start stop : Date} {dates : List Date}
    (increasing : Increasing (first :: dates)) (member : (start, stop) ∈ pairs (first :: dates)) :
    first ≤ start ∧ start < stop := by
  induction dates generalizing first with
  | nil => exact absurd member List.not_mem_nil
  | cons second dates ih =>
    obtain ⟨beyond, rest⟩ := List.pairwise_cons.1 increasing
    have next : first < second := beyond second List.mem_cons_self
    rw [pairs_cons] at member
    rcases List.mem_cons.1 member with same | later
    · cases same
      exact ⟨Int.le_refl _, next⟩
    · obtain ⟨after, order⟩ := ih rest later
      exact ⟨Int.le_trans (Int.le_of_lt next) after, order⟩

theorem pairs_within {dates : List Date} {start stop start' stop' : Date}
    (increasing : Increasing dates) (member : (start, stop) ∈ pairs dates)
    (member' : (start', stop') ∈ pairs dates) (from_start : start' ≤ start) (to_stop : stop ≤ stop') :
    start = start' ∧ stop = stop' := by
  induction dates with
  | nil => exact absurd member List.not_mem_nil
  | cons first dates ih =>
    cases dates with
    | nil => exact absurd member List.not_mem_nil
    | cons second dates =>
      obtain ⟨beyond, rest⟩ := List.pairwise_cons.1 increasing
      have next : first < second := beyond second List.mem_cons_self
      rw [pairs_cons] at member member'
      simp only [Date.le_def, Date.lt_def] at *
      -- pairs behind the first start no earlier than it stops
      rcases List.mem_cons.1 member with same | later <;>
        rcases List.mem_cons.1 member' with same' | later'
      · cases same
        cases same'
        exact ⟨rfl, rfl⟩
      · cases same
        have outside := (mem_pairs rest later').1
        rw [Date.le_def] at outside
        omega
      · cases same'
        obtain ⟨outside, order⟩ := mem_pairs rest later
        rw [Date.le_def] at outside
        rw [Date.lt_def] at order
        omega
      · exact ih rest later later'

theorem pairwise_pairs {dates : List Date} (increasing : Increasing dates) :
    (pairs dates).Pairwise fun pair other => pair.1 < other.1 := by
  induction dates with
  | nil => exact List.Pairwise.nil
  | cons first dates ih =>
    cases dates with
    | nil => exact List.Pairwise.nil
    | cons second dates =>
      obtain ⟨beyond, rest⟩ := List.pairwise_cons.1 increasing
      have next : first < second := beyond second List.mem_cons_self
      rw [pairs_cons]
      refine List.pairwise_cons.2 ⟨?_, ih rest⟩
      intro pair member
      exact Int.lt_of_lt_of_le next (mem_pairs rest member).1

/-! ## Usage between transitions -/

theorem deal_sublist (usageType : UsageType) (subscription : String) (intervals : List (Date × Date))
    (records : List RawUsage) :
    ((deal usageType subscription intervals records).map fun rolled => (rolled.start, rolled.stop)).Sublist
      intervals := by
  induction intervals generalizing records with
  | nil => exact List.Sublist.slnil
  | cons pair intervals ih =>
    obtain ⟨start, stop⟩ := pair
    unfold deal
    dsimp only
    split
    · exact (ih _).cons _
    · exact (ih _).cons_cons _

theorem rollUp_sublist (transitions : List Date) (records : List RawUsage) (usageType : UsageType)
    (subscription : String) :
    ((rollUp transitions records usageType subscription).map fun rolled =>
      (rolled.start, rolled.stop)).Sublist (pairs transitions) := by
  unfold rollUp
  split
  next =>
    split
    next => exact List.nil_sublist _
    next =>
      split
      · exact List.nil_sublist _
      · exact deal_sublist usageType subscription _ _
  next => exact List.nil_sublist _

end Rollup

end Arrears
