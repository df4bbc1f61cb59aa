import Arrears.Proofs.Cycle.Bound

/-! The first cycle date behind a bound. It moves on only when the bound reaches it: up to it the
cycle dates stay what they are, and at it one joins them. Grids of single months with one cycle day
have it in common, wherever they start. -/

set_option autoImplicit false

namespace Arrears

theorem alignedDay_le_iff {cycleDay m n : Int} (positive : 1 ≤ cycleDay) :
    alignedDay m cycleDay ≤ alignedDay n cycleDay ↔ m ≤ n := by
  have steps : StrictMono fun index => alignedDay index cycleDay := fun _ _ => alignedDay_lt positive
  exact steps.le_iff_le

namespace CycleGrid

variable {grid other : CycleGrid} {bound stop date : Date}

/-- The day count of the first cycle date behind a bound. -/
def following (grid : CycleGrid) (bound : Date) : Int := grid.dayAt (grid.countUpTo bound)

theorem lt_following (grid : CycleGrid) (bound : Date) : bound.number < grid.following bound :=
  Int.not_le.1 fun reached => Nat.lt_irrefl _ (lt_countUpTo.2 reached)

theorem following_mono (grid : CycleGrid) (later : bound ≤ stop) :
    grid.following bound ≤ grid.following stop :=
  grid.dayAt_le_iff.2 (Int.ofNat_le.2 (grid.countUpTo_mono later))

theorem countUpTo_of_before (later : bound ≤ stop) (before : stop.number < grid.following bound) :
    grid.countUpTo stop = grid.countUpTo bound := by
  refine Nat.le_antisymm ?_ (grid.countUpTo_mono later)
  by_contra more
  exact Int.not_le.2 before (lt_countUpTo.1 (Nat.not_le.1 more))

theorem countUpTo_of_following (same : date.number = grid.following bound) :
    grid.countUpTo date = grid.countUpTo bound + 1 := by
  apply Nat.le_antisymm
  · by_contra more
    have reached := lt_countUpTo.1 (Nat.not_le.1 more)
    rw [same, following, grid.dayAt_le_iff] at reached
    omega
  · exact lt_countUpTo.2 same.ge

theorem lastIndex?_congr (same : grid.countUpTo stop = grid.countUpTo bound) :
    grid.lastIndex? stop = grid.lastIndex? bound := by
  unfold countUpTo at same
  cases late : grid.lastIndex? stop <;> cases early : grid.lastIndex? bound <;> simp_all

theorem datesUpTo_congr (same : grid.countUpTo stop = grid.countUpTo bound) :
    grid.datesUpTo stop = grid.datesUpTo bound := by
  rw [datesUpTo, same, datesUpTo]

/-- At the first cycle date behind a bound, just this date joins those up to the bound. -/
theorem datesUpTo_following {dates more : List Date} (same : date.number = grid.following bound)
    (found : grid.datesUpTo bound = .ok dates) (found_next : grid.datesUpTo date = .ok more) :
    more = dates ++ [date] := by
  obtain ⟨_, _, collected⟩ := bind_eq_ok.1 found
  obtain ⟨_, _, collected_next⟩ := bind_eq_ok.1 found_next
  rw [countUpTo_of_following same, List.range_succ] at collected_next
  obtain ⟨front, back, collected_front, collected_back, rfl⟩ := mapM_append_eq_ok.1 collected_next
  cases Except.ok.inj (collected.symm.trans collected_front)
  obtain ⟨last, _, at_last, none, rfl⟩ := mapM_cons_eq_ok.1 collected_back
  cases mapM_nil_eq_ok.1 none
  have reached : last = date := Date.ext_number ((dateAt_number at_last).trans same.symm)
  rw [reached]

/-! ## From the start on -/

theorem start_le_dayAt_zero (grid : CycleGrid) : grid.start.number ≤ grid.dayAt 0 := by
  cases cycle : grid.cycle with
  | days count => rw [dayAt_days cycle, Int.zero_mul, Int.add_zero]
  | months count =>
    rw [dayAt_months cycle, Int.zero_mul, Int.add_zero, firstMonth]
    split
    next =>
      have counted := grid.count_pos
      by_contra before
      have reached := le_monthOf grid.day_pos (Int.le_of_lt (Int.not_le.1 before))
      rw [Date.monthIndex] at reached
      omega
    next aligned => exact Int.not_lt.1 aligned

theorem exists_dateAt {n : Int} (from_first : 1 ≤ grid.dayAt n) (to_last : grid.dayAt n ≤ 3652059) :
    ∃ date, grid.dateAt n = .ok date := by
  have found : Date.ofNumber? (grid.dayAt n) = some ⟨grid.dayAt n, from_first, to_last⟩ :=
    Date.ofNumber?_eq_some.2 rfl
  exact ⟨_, by rw [dateAt, found]⟩

theorem one_le_dayAt (grid : CycleGrid) (n : Nat) : 1 ≤ grid.dayAt n := by
  have first := grid.dayAt_le_iff.2 (Int.natCast_nonneg n)
  exact Int.le_trans grid.start.first_le (Int.le_trans grid.start_le_dayAt_zero first)

theorem dateAt_of_le {n : Nat} (within : grid.dayAt n ≤ bound.number) : ∃ date, grid.dateAt n = .ok date :=
  exists_dateAt (grid.one_le_dayAt n) (Int.le_trans within bound.le_last)

/-! ## Where the grid stands -/

theorem cutBy_self (date : Date) : date.cutBy (some date) = date := ite_self _

theorem of_eq_ok {start : Date} {cycleDay : Int} {period : BillingPeriod}
    (aligned : CycleGrid.of start cycleDay period = .ok grid) :
    grid.start = start ∧ grid.cycleDay = cycleDay ∧ period.cycle? = some grid.cycle := by
  unfold CycleGrid.of at aligned
  split at aligned
  next =>
    split at aligned
    next found => cases aligned; exact ⟨rfl, rfl, found⟩
    next => cases aligned
  next => cases aligned

/-- In arrear a grid stands between the last cycle date up to its bound, if there is one, and the one
behind it. -/
theorem inArrear_eq_ok_iff {stop : Option Date} {target next : Date} {last : Option Date} :
    grid.inArrear stop target = .ok (last, next) ↔
      (grid.lastIndex? (target.cutBy stop)).map (fun (n : Nat) => grid.dateAt n) = last.map Except.ok ∧
        grid.dateAt (grid.countUpTo (target.cutBy stop)) = .ok next := by
  unfold inArrear countUpTo
  cases grid.lastIndex? (target.cutBy stop) with
  | none =>
    constructor
    · intro found
      obtain ⟨first, begins, same⟩ := bind_eq_ok.1 found
      cases same
      exact ⟨rfl, begins⟩
    · rintro ⟨no_last, begins⟩
      cases Option.map_eq_none_iff.1 no_last.symm
      exact bind_eq_ok.2 ⟨next, begins, rfl⟩
  | some n =>
    constructor
    · intro found
      obtain ⟨date, at_last, rest⟩ := bind_eq_ok.1 found
      obtain ⟨following, at_next, same⟩ := bind_eq_ok.1 rest
      cases same
      exact ⟨congrArg some at_last, at_next⟩
    · rintro ⟨some_last, at_next⟩
      obtain ⟨date, rfl, at_last⟩ := Option.map_eq_some_iff.1 some_last.symm
      exact bind_eq_ok.2 ⟨date, at_last.symm, bind_eq_ok.2 ⟨next, at_next, rfl⟩⟩

theorem inAdvance_eq_ok_iff {stop : Option Date} {target next : Date} {last : Option Date} :
    grid.inAdvance stop target = .ok (last, next) ↔
      last = none ∧ ∃ proposed, grid.dateAt (grid.countUpTo target) = .ok proposed ∧
        next = proposed.cutBy stop := by
  unfold inAdvance
  rw [bind_eq_ok]
  constructor
  · rintro ⟨proposed, ahead, same⟩
    cases same
    exact ⟨rfl, proposed, ahead, rfl⟩
  · rintro ⟨rfl, proposed, ahead, rfl⟩
    exact ⟨proposed, ahead, rfl⟩

theorem inArrear_following {cut : Option Date} {target next : Date} {last : Option Date}
    (found : grid.inArrear cut target = .ok (last, next)) :
    next.number = grid.following (target.cutBy cut) :=
  dateAt_number (inArrear_eq_ok_iff.1 found).2

/-- A billing interval up to a later end and target stands where it stood before as long as no
further cycle date is reached. -/
theorem of_retargeted {start : Date} {cycleDay : Int} {period : BillingPeriod} {mode : BillingMode}
    {billing : BillingInterval}
    (made : BillingInterval.of start (some bound) bound cycleDay period mode = .ok billing)
    (same : billing.grid.countUpTo stop = billing.grid.countUpTo bound) :
    ∃ again, BillingInterval.of start (some stop) stop cycleDay period mode = .ok again ∧
      again.grid = billing.grid := by
  obtain ⟨grid, first, last, next, aligned, begins, stands, rfl⟩ := BillingInterval.of_eq_ok_iff.1 made
  have again : ∃ last next, grid.stand mode (some stop) stop = .ok (last, next) := by
    cases mode with
    | inArrear =>
      refine ⟨last, next, ?_⟩
      rw [stand, inArrear_eq_ok_iff, cutBy_self] at stands ⊢
      rwa [lastIndex?_congr same, same]
    | inAdvance =>
      obtain ⟨_, proposed, ahead, _⟩ := inAdvance_eq_ok_iff.1 stands
      rw [← same] at ahead
      exact ⟨none, proposed.cutBy (some stop), inAdvance_eq_ok_iff.2 ⟨rfl, proposed, ahead, rfl⟩⟩
  obtain ⟨last, next, stands⟩ := again
  exact ⟨_, BillingInterval.of_eq_ok_iff.2 ⟨grid, first, last, next, aligned, begins, stands, rfl⟩, rfl⟩

/-! ## Single months -/

theorem dayAt_neg_one_lt (grid : CycleGrid) : grid.dayAt (-1) < grid.start.number := by
  have counted := grid.count_pos
  cases cycle : grid.cycle with
  | days count =>
    rw [cycle, Cycle.count] at counted
    rw [dayAt_days cycle]
    omega
  | months count =>
    rw [cycle, Cycle.count] at counted
    rw [dayAt_months cycle, firstMonth, cycle, Cycle.count]
    split
    next before =>
      have month : grid.start.monthIndex + count + -1 * count = grid.start.monthIndex := by omega
      rwa [month]
    next =>
      have within := alignedDay_lt_monthStart (grid.start.monthIndex + -1 * count) grid.cycleDay
      have months := monthStart_mono
        (by omega : grid.start.monthIndex + -1 * count + 1 ≤ grid.start.monthIndex)
      have starts := (Calendar.mem_monthOf grid.start.number).1
      unfold Date.monthIndex at *
      omega

/-- In a grid of single months that has started, the cycle day of a month is the first behind the
bound just if that of the month before does not lie behind it. -/
theorem following_of_monthly (monthly : grid.cycle = .months 1) (started : grid.start ≤ bound) :
    ∃ month, grid.following bound = alignedDay month grid.cycleDay ∧
      alignedDay (month - 1) grid.cycleDay ≤ bound.number := by
  refine ⟨grid.firstMonth + grid.countUpTo bound * (1 : Nat), dayAt_months monthly _, ?_⟩
  cases counted : grid.countUpTo bound with
  | zero =>
    -- no cycle date is reached yet, so that the one before the first counts
    have early := grid.dayAt_neg_one_lt
    rw [dayAt_months monthly] at early
    have month : grid.firstMonth + ((0 : Nat) : Int) * (1 : Nat) - 1 = grid.firstMonth + -1 * (1 : Nat) := by omega
    rw [month]
    exact Int.le_trans (Int.le_of_lt early) started
  | succ last =>
    have reached : grid.dayAt last ≤ bound.number := lt_countUpTo.1 (counted ▸ Nat.lt_succ_self last)
    rw [dayAt_months monthly] at reached
    have month : grid.firstMonth + ((last + 1 : Nat) : Int) * (1 : Nat) - 1 =
        grid.firstMonth + last * (1 : Nat) := by omega
    rwa [month]

/-- Grids of single months with one cycle day agree on what follows a bound behind their starts. -/
theorem following_eq_of_monthly (monthly : grid.cycle = .months 1) (also : other.cycle = .months 1)
    (day : other.cycleDay = grid.cycleDay) (started : grid.start ≤ bound)
    (also_started : other.start ≤ bound) : other.following bound = grid.following bound := by
  obtain ⟨month, next, before⟩ := following_of_monthly monthly started
  obtain ⟨month', next', before'⟩ := following_of_monthly also also_started
  have behind := grid.lt_following bound
  have behind' := other.lt_following bound
  rw [day] at next' before'
  rw [next] at behind
  rw [next'] at behind'
  -- a bound lies between the cycle days of just two months that follow each other
  have first := Int.not_le.2 (lt_of_le_of_lt before behind')
  have second := Int.not_le.2 (lt_of_le_of_lt before' behind)
  rw [alignedDay_le_iff grid.day_pos] at first second
  have same : month' = month := by omega
  rw [next, next', same]

end CycleGrid

end Arrears
