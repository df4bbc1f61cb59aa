import Arrears.Proofs.Cycle.Alignment
import Mathlib.Order.Bounds.Basic

/-! Where a billing interval stands among its cycle dates. In arrear the next cycle date is the least
one behind the bound and the last one the greatest up to it, so that they follow each other; in
advance the next date is the least one behind the target, or the end before it. The last cycle date
may also be searched for, from the number that whole months lead to: stepping back and then on from
it ends, after at most one step back. -/

set_option autoImplicit false

namespace Arrears

namespace CycleGrid

variable {grid : CycleGrid} {bound date last next : Date} {n : Nat}

def cycleDates (grid : CycleGrid) : Set Date := {date | ∃ n : Nat, grid.dateAt n = .ok date}

theorem dateAt_eq_ok {n : Int} : grid.dateAt n = .ok date ↔ date.number = grid.dayAt n := by
  constructor
  · exact dateAt_number
  · intro same
    rw [dateAt, Date.ofNumber?_eq_some.2 same]

/-! ## Least and greatest -/

theorem isLeast_following (same : next.number = grid.following bound) :
    IsLeast {date | bound < date ∧ date ∈ grid.cycleDates} next := by
  constructor
  · refine ⟨?_, grid.countUpTo bound, dateAt_eq_ok.2 same⟩
    rw [Date.lt_def, same]
    exact grid.lt_following bound
  · rintro date ⟨behind, n, found⟩
    rw [Date.lt_def, dateAt_number found] at behind
    rw [Date.le_def, same, dateAt_number found, following, grid.dayAt_le_iff]
    by_contra earlier
    exact Int.not_le.2 behind (lt_countUpTo.1 (Int.ofNat_lt.1 (Int.not_le.1 earlier)))

theorem isGreatest_last (counted : grid.lastIndex? bound = some n) (found : grid.dateAt n = .ok last) :
    IsGreatest {date | date ≤ bound ∧ date ∈ grid.cycleDates} last := by
  obtain ⟨reached, behind⟩ := lastIndex?_eq_some counted
  constructor
  · refine ⟨?_, n, found⟩
    rwa [Date.le_def, dateAt_number found]
  · rintro date ⟨within, m, found'⟩
    rw [Date.le_def, dateAt_number found'] at within
    rw [Date.le_def, dateAt_number found, dateAt_number found', grid.dayAt_le_iff]
    by_contra later
    exact Int.not_le.2 behind (Int.le_trans (grid.dayAt_le_iff.2 (Int.add_one_le_of_lt (Int.not_le.1 later))) within)

theorem lastIndex?_eq_none : grid.lastIndex? bound = none ↔ bound.number < grid.dayAt 0 := by
  unfold lastIndex?
  split
  next before => simp [before]
  next reached => split <;> simp [reached]

/-! ## Searching -/

/-- Steps back from a cycle date, while it lies behind the bound and is not the first. No answer means
that the steps have run out. -/
def stepBack (grid : CycleGrid) (bound : Date) : Nat → Nat → Option (Except Date.Fault Nat)
  | 0, _ => none
  | _ + 1, 0 => some (.ok 0)
  | steps + 1, n + 1 =>
    match grid.dateAt (n + 1 : Nat) with
    | .error fault => some (.error fault)
    | .ok date => if bound < date then grid.stepBack bound steps n else some (.ok (n + 1))

def stepOn (grid : CycleGrid) (bound : Date) : Nat → Nat → Option (Except Date.Fault Nat)
  | 0, _ => none
  | steps + 1, n =>
    match grid.dateAt (n + 1 : Nat) with
    | .error fault => some (.error fault)
    | .ok date => if date ≤ bound then grid.stepOn bound steps (n + 1) else some (.ok n)

def settle (grid : CycleGrid) (bound : Date) (steps n : Nat) : Option (Except Date.Fault Nat) :=
  match grid.stepBack bound steps n with
  | some (.ok m) => grid.stepOn bound steps m
  | stopped => stopped

/-- Searches for the last cycle date on or before a date. Days are divided; months are divided first,
and the cycle date this leads to is settled by steps. -/
def search (grid : CycleGrid) (bound : Date) (steps : Nat) : Option (Except Date.Fault (Option Nat)) :=
  if bound.number < grid.dayAt 0 then some (.ok none) else
    match grid.cycle with
    | .days count => some (.ok (some ((bound.number - grid.start.number) / count).toNat))
    | .months count =>
      (grid.settle bound steps ((bound.monthIndex - grid.firstMonth) / count).toNat).map (·.map some)

theorem stepBack_of_le (within : grid.dayAt n ≤ bound.number) (steps : Nat) :
    grid.stepBack bound (steps + 1) n = some (.ok n) := by
  cases n with
  | zero => rfl
  | succ n =>
    obtain ⟨date, found⟩ := dateAt_of_le within
    have reached : ¬ bound < date := by
      rw [Date.lt_def, dateAt_number found]
      exact Int.not_lt.2 within
    simp only [stepBack, found, if_neg reached]

theorem stepOn_of_lt (behind : bound.number < grid.dayAt (n + 1 : Nat)) (steps : Nat) :
    grid.stepOn bound (steps + 1) n = some (grid.dateAt (n + 1 : Nat) >>= fun _ => .ok n) := by
  unfold stepOn
  cases found : grid.dateAt (n + 1 : Nat) with
  | error fault => rfl
  | ok date =>
    have beyond : ¬ date ≤ bound := by
      rw [Date.le_def, dateAt_number found]
      exact Int.not_le.2 behind
    exact if_neg beyond

/-- From the last cycle date or the next one, settling takes two looks in each direction at most. -/
theorem settle_eq (reached : grid.dayAt n ≤ bound.number) (behind : bound.number < grid.dayAt (n + 1 : Nat))
    {guess : Nat} (near : guess = n ∨ guess = n + 1) (steps : Nat) :
    grid.settle bound (steps + 2) guess = some (grid.dateAt (n + 1 : Nat) >>= fun _ => .ok n) := by
  unfold settle
  rcases near with rfl | rfl
  · rw [stepBack_of_le reached]
    exact stepOn_of_lt behind _
  · rw [stepBack]
    cases found : grid.dateAt (n + 1 : Nat) with
    | error fault => rfl
    | ok date =>
      have beyond : bound < date := by
        rw [Date.lt_def, dateAt_number found]
        exact behind
      dsimp only
      rw [if_pos beyond, stepBack_of_le reached]
      dsimp only
      rw [stepOn_of_lt behind, found]

/-- Whole months lead to the last cycle date, or to the next one. -/
theorem lastIndex?_near {count : Nat} (months : grid.cycle = .months count) (counted : grid.lastIndex? bound = some n) :
    ((bound.monthIndex - grid.firstMonth) / count).toNat = n ∨
      ((bound.monthIndex - grid.firstMonth) / count).toNat = n + 1 := by
  unfold lastIndex? at counted
  split at counted
  next => cases counted
  next reached =>
    simp only [months] at counted
    generalize ((bound.monthIndex - grid.firstMonth) / (count : Int)).toNat = guess at *
    split at counted
    next => exact .inl (Option.some.inj counted)
    next behind =>
      have some_before : guess ≠ 0 := by
        rintro rfl
        exact behind (Int.not_lt.1 reached)
      have := Option.some.inj counted
      omega

/-- The search ends, and it finds the last cycle date up to the bound. It only fails where the cycle
date behind the bound does not exist. -/
theorem search_ends (grid : CycleGrid) (bound : Date) :
    ∃ outcome, (∀ steps, grid.search bound (steps + 2) = some outcome) ∧
      (outcome = .ok (grid.lastIndex? bound) ∨
        ∃ fault, outcome = .error fault ∧ grid.dateAt (grid.countUpTo bound) = .error fault) := by
  cases counted : grid.lastIndex? bound with
  | none =>
    have before := lastIndex?_eq_none.1 counted
    exact ⟨.ok none, fun _ => if_pos before, .inl rfl⟩
  | some n =>
    have from_first : ¬ bound.number < grid.dayAt 0 := by
      rw [← lastIndex?_eq_none, counted]
      nofun
    obtain ⟨reached, behind⟩ := lastIndex?_eq_some counted
    cases cycle : grid.cycle with
    | days count =>
      refine ⟨.ok (some n), fun steps => ?_, .inl rfl⟩
      rw [← counted]
      simp only [search, lastIndex?, if_neg from_first, cycle]
    | months count =>
      refine ⟨(grid.dateAt (n + 1 : Nat) >>= fun _ => .ok n).map some, fun steps => ?_, ?_⟩
      · simp only [search, if_neg from_first, cycle, settle_eq reached behind (lastIndex?_near cycle counted)]
        rfl
      · simp only [countUpTo, counted]
        cases grid.dateAt (n + 1 : Nat) with
        | error fault => exact .inr ⟨fault, rfl, rfl⟩
        | ok date => exact .inl rfl

end CycleGrid

namespace BillingInterval

/-! ## Standing in arrear and in advance -/

/-- Where an interval stands at a bound: between the last cycle date up to it, if there is one, and the
next one. -/
structure StandsAt (billing : BillingInterval) (bound : Date) : Prop where
  next_least : IsLeast {date | bound < date ∧ date ∈ billing.grid.cycleDates} billing.next
  last_greatest : ∀ last, billing.last = some last →
    IsGreatest {date | date ≤ bound ∧ date ∈ billing.grid.cycleDates} last
  last_none : billing.last = none ↔ bound < billing.first
  consecutive : ∀ last, billing.last = some last →
    ∃ n : Nat, billing.grid.dateAt n = .ok last ∧ billing.grid.dateAt (n + 1) = .ok billing.next

variable {start target : Date} {stop : Option Date} {cycleDay : Int} {period : BillingPeriod}
  {mode : BillingMode} {billing : BillingInterval}

theorem standsAt_of_inArrear (begins : billing.grid.dateAt 0 = .ok billing.first)
    (stands : billing.grid.inArrear stop target = .ok (billing.last, billing.next)) :
    billing.StandsAt (target.cutBy stop) := by
  obtain ⟨at_last, at_next⟩ := CycleGrid.inArrear_eq_ok_iff.1 stands
  have first_of_none : billing.last = none ↔ target.cutBy stop < billing.first := by
    rw [Date.lt_def, CycleGrid.dateAt_number begins, ← CycleGrid.lastIndex?_eq_none, ← Option.map_eq_none_iff,
      ← at_last, Option.map_eq_none_iff]
  have counted {last : Date} (same : billing.last = some last) :
      ∃ n, billing.grid.lastIndex? (target.cutBy stop) = some n ∧ billing.grid.dateAt n = .ok last := by
    rw [same] at at_last
    exact Option.map_eq_some_iff.1 at_last
  refine ⟨CycleGrid.isLeast_following (CycleGrid.dateAt_number at_next), ?_, first_of_none, ?_⟩
  · intro last same
    obtain ⟨n, index, found⟩ := counted same
    exact CycleGrid.isGreatest_last index found
  · intro last same
    obtain ⟨n, index, found⟩ := counted same
    rw [CycleGrid.countUpTo, index] at at_next
    exact ⟨n, found, at_next⟩

theorem next_of_inAdvance (stands : billing.grid.inAdvance stop target = .ok (billing.last, billing.next)) :
    billing.last = none ∧ ∃ proposed, IsLeast {date | target < date ∧ date ∈ billing.grid.cycleDates} proposed ∧
      billing.next = proposed.cutBy stop := by
  obtain ⟨none, proposed, ahead, next⟩ := CycleGrid.inAdvance_eq_ok_iff.1 stands
  exact ⟨none, proposed, CycleGrid.isLeast_following (CycleGrid.dateAt_number ahead), next⟩

/-- Where a billing interval stands. Searching for the last cycle date up to any date ends. The cycle
dates of an interval are those of the grid of its start. In arrear it stands between the last one up
to the target, or up to the end before it, and the next one; in advance it is due at the least one
behind the target, or at the end before it. -/
theorem stands_among_cycle_dates (start target : Date) (stop : Option Date) (cycleDay : Int)
    (period : BillingPeriod) (mode : BillingMode) :
    (∀ (grid : CycleGrid) (bound : Date), ∃ outcome, (∀ steps, grid.search bound (steps + 2) = some outcome) ∧
        (outcome = .ok (grid.lastIndex? bound) ∨
          ∃ fault, outcome = .error fault ∧ grid.dateAt (grid.countUpTo bound) = .error fault)) ∧
      ∀ billing, BillingInterval.of start stop target cycleDay period mode = .ok billing →
        (CycleGrid.of start cycleDay period = .ok billing.grid ∧ billing.grid.dateAt 0 = .ok billing.first) ∧
          (mode = .inArrear → billing.StandsAt (target.cutBy stop)) ∧
          (mode = .inAdvance → billing.last = none ∧
            ∃ proposed, IsLeast {date | target < date ∧ date ∈ billing.grid.cycleDates} proposed ∧
              billing.next = proposed.cutBy stop) := by
  refine ⟨CycleGrid.search_ends, fun billing made => ?_⟩
  obtain ⟨grid, first, last, next, aligned, begins, stands, rfl⟩ := of_eq_ok_iff.1 made
  refine ⟨⟨aligned, begins⟩, ?_, ?_⟩
  · rintro rfl
    exact standsAt_of_inArrear begins stands
  · rintro rfl
    exact next_of_inAdvance stands

open CycleGrid (november lastOfFebruary lastOfMay)

def sinceNovember : BillingInterval where
  start := november
  stop := none
  target := lastOfFebruary
  period := .quarterly
  mode := .inArrear
  grid := ⟨november, .months 3, 31, by decide, by decide, by decide⟩
  first := november
  last := some lastOfFebruary
  next := lastOfMay

theorem sinceNovember_stands :
    BillingInterval.of november none lastOfFebruary 31 .quarterly .inArrear = .ok sinceNovember ∧
      sinceNovember.StandsAt lastOfFebruary := by
  have made : BillingInterval.of november none lastOfFebruary 31 .quarterly .inArrear = .ok sinceNovember := by
    decide +kernel
  have stands := (stands_among_cycle_dates november lastOfFebruary none 31 .quarterly .inArrear).2 sinceNovember made
  exact ⟨made, stands.2.1 rfl⟩

end BillingInterval

end Arrears
