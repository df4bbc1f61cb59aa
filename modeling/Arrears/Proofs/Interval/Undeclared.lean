import Arrears.Proofs.Cycle.Units
import Arrears.Proofs.Interval.Chain
import Arrears.Proofs.Interval.Stepwise

/-! Consumption of units that the section does not declare does not matter. It may add usage to roll
up, but no line is priced for it, so that nothing is left to bill where no other unit was used, and
the bill of the other units stays what it is. -/

set_option autoImplicit false

namespace Arrears

/-! ## Rolling up some of the units -/

namespace Rollup

variable {usageType : UsageType} {subscription : String} {keep : String → Bool}

def ofUnits (keep : String → Bool) (records : List RawUsage) : List RawUsage :=
  records.filter fun record => keep record.unit

theorem within_ofUnits (start stop : Date) (keep : String → Bool) (records : List RawUsage) :
    within start stop (ofUnits keep records) = ofUnits keep (within start stop records) := by
  simp only [within, ofUnits, List.filter_filter, Bool.and_comm]

theorem amountsOf_ofUnits {unit : String} (kept : keep unit = true) (records : List RawUsage) :
    amountsOf unit (ofUnits keep records) = amountsOf unit records := by
  rw [amountsOf, ofUnits, List.filter_filter, amountsOf]
  congr 1
  apply List.filter_congr
  intro record _
  by_cases same : record.unit = unit <;> simp [same, kept]

theorem units_ofUnits (usageType : UsageType) (keep : String → Bool) (records : List RawUsage) :
    units usageType (ofUnits keep records) =
      (units usageType records).filter fun rolled => keep rolled.unit := by
  have names : unitNames (ofUnits keep records) = (unitNames records).filter keep := by
    rw [unitNames, unitNames, ← eraseDups_filter, List.filter_map]
    rfl
  rw [units_eq, units_eq, names, List.filter_map]
  apply List.map_congr_left
  intro unit member
  have kept : keep unit = true := (List.mem_filter.1 member).2
  simp only [amountOf, amountsOf_ofUnits kept]

end Rollup

namespace UsageInterval

variable {interval : UsageInterval} {event : BillingEvent} {existing : List Item}

/-! ## Billing without them -/

def declares (interval : UsageInterval) (unit : String) : Bool := decide (unit ∈ interval.usage.units)

def declaredOnly (interval : UsageInterval) : UsageInterval :=
  { interval with rawUsage := Rollup.ofUnits interval.declares interval.rawUsage }

/-- There is no credit for a time: what earlier items billed for it is not negative. -/
def NoCredit (interval : UsageInterval) (existing : List Item) (pair : Date × Date) : Prop :=
  ∃ billed, Reconciliation.billedAmount
      (Reconciliation.billedItems interval.usage.name pair.1 pair.2 existing) = .ok billed ∧
    billed.lt .zero = .ok false

theorem priceUsed_declared (consumable : interval.usage.usageType = .consumable) (used : List RolledUnit) :
    interval.priceUsed (used.filter fun rolled => interval.declares rolled.unit) =
      interval.priceUsed used := by
  simp only [priceUsed, Usage.price, consumable, declares, List.filter_filter, Bool.and_self]

theorem priceUsed_nil (built : interval.isBuilt = true) (begins : interval.firstEvent = .ok event)
    (consumable : interval.usage.usageType = .consumable) : interval.priceUsed [] = .ok [] := by
  rw [priceUsed, requireBuilt, if_pos built, begins]
  simp only [Usage.price, consumable]
  rfl

theorem billRolled_of_unpriced {rolled : RolledUsage} (unpriced : interval.priceUsed rolled.units = .ok [])
    (no_credit : interval.NoCredit existing (rolled.start, rolled.stop)) :
    interval.billRolled event existing rolled = .ok [] := by
  obtain ⟨billed, sum, covered⟩ := no_credit
  refine billRolled_eq_ok.2 ⟨[], .zero, billed, unpriced, rfl, sum, ?_⟩
  by_cases none : interval.billedBefore existing rolled = []
  · have summed : Line.total [] = .ok .zero := rfl
    have needed : Reconciliation.isNeeded (interval.billedBefore existing rolled) billed .zero = .ok true := by
      rw [Reconciliation.isNeeded, none]
      rfl
    refine .absorbed needed ?_ summed rfl
    rw [none, Reconciliation.net_nil]
  · refine .covered ?_
    rw [Reconciliation.isNeeded, List.isEmpty_eq_false_iff.2 none]
    exact covered

theorem billRolled_congr {rolled other : RolledUsage} (starts : other.start = rolled.start)
    (stops : other.stop = rolled.stop) (priced : interval.priceUsed other.units = interval.priceUsed rolled.units) :
    interval.billRolled event existing other = interval.billRolled event existing rolled := by
  simp only [billRolled, starts, stops, priced]

/-- Usage that gives nothing does not matter to what is billed beside it. -/
theorem billEach_cons_nil {rolled : RolledUsage} (more : List RolledUsage)
    (nothing : interval.billRolled event existing rolled = .ok []) :
    (interval.billEach event existing (rolled :: more)).1 = (interval.billEach event existing more).1 ∧
      (interval.billEach event existing (rolled :: more)).2.2 = (interval.billEach event existing more).2.2 := by
  rw [billEach, nothing]
  exact ⟨List.nil_append _, rfl⟩

theorem billEach_cons_congr {rolled other : RolledUsage} {rest others : List RolledUsage}
    (first : interval.billRolled event existing other = interval.billRolled event existing rolled)
    (drafts : (interval.billEach event existing others).1 = (interval.billEach event existing rest).1)
    (outcome : (interval.billEach event existing others).2.2 = (interval.billEach event existing rest).2.2) :
    (interval.billEach event existing (other :: others)).1 =
        (interval.billEach event existing (rolled :: rest)).1 ∧
      (interval.billEach event existing (other :: others)).2.2 =
        (interval.billEach event existing (rolled :: rest)).2.2 := by
  rw [billEach, billEach, first]
  cases interval.billRolled event existing rolled with
  | error fault => exact ⟨rfl, rfl⟩
  | ok own => exact ⟨congrArg (own ++ ·) drafts, outcome⟩

theorem billEach_declaredOnly (interval : UsageInterval) (event : BillingEvent) (existing : List Item)
    (usage : List RolledUsage) :
    interval.declaredOnly.billEach event existing usage = interval.billEach event existing usage := by
  induction usage with
  | nil => rfl
  | cons rolled more ih =>
    have own : interval.declaredOnly.billRolled event existing rolled = interval.billRolled event existing rolled := rfl
    rw [billEach, billEach, own, ih]
    rfl

theorem nextNotification_declaredOnly (interval : UsageInterval) :
    interval.declaredOnly.nextNotification = interval.nextNotification := by
  have due : interval.declaredOnly.dueDates interval.events = interval.dueDates interval.events := by
    apply dueDates_congr
    intro _ _
    rfl
  unfold nextNotification
  rw [← due]
  rfl

theorem billEach_declared (built : interval.isBuilt = true) (begins : interval.firstEvent = .ok event)
    (consumable : interval.usage.usageType = .consumable) (subscription : String) (records : List RawUsage)
    {intervals : List (Date × Date)} (no_credit : ∀ pair ∈ intervals, interval.NoCredit existing pair) :
    (interval.billEach event existing (Rollup.used .consumable subscription
        (Rollup.ofUnits interval.declares records) intervals)).1 =
      (interval.billEach event existing (Rollup.used .consumable subscription records intervals)).1 ∧
    (interval.billEach event existing (Rollup.used .consumable subscription
        (Rollup.ofUnits interval.declares records) intervals)).2.2 =
      (interval.billEach event existing (Rollup.used .consumable subscription records intervals)).2.2 := by
  induction intervals with
  | nil => exact ⟨rfl, rfl⟩
  | cons pair intervals ih =>
    obtain ⟨no_credit, later⟩ := List.forall_mem_cons.1 no_credit
    obtain ⟨drafts, outcome⟩ := ih later
    have declared : interval.priceUsed (Rollup.units .consumable
          (Rollup.ofUnits interval.declares (Rollup.within pair.1 pair.2 records))) =
        interval.priceUsed (Rollup.units .consumable (Rollup.within pair.1 pair.2 records)) := by
      rw [Rollup.units_ofUnits, priceUsed_declared consumable]
    rw [Rollup.used_cons, Rollup.used_cons, Rollup.within_ofUnits]
    by_cases unused : Rollup.within pair.1 pair.2 records = []
    · have undeclared : Rollup.ofUnits interval.declares (Rollup.within pair.1 pair.2 records) = [] := by
        rw [unused]
        rfl
      rw [if_pos unused, if_pos undeclared]
      exact ⟨drafts, outcome⟩
    · rw [if_neg unused]
      by_cases undeclared : Rollup.ofUnits interval.declares (Rollup.within pair.1 pair.2 records) = []
      · -- only undeclared units were used in this time
        rw [if_pos undeclared, drafts, outcome]
        rw [undeclared] at declared
        have nothing : interval.billRolled event existing ⟨subscription, pair.1, pair.2,
            Rollup.units .consumable (Rollup.within pair.1 pair.2 records)⟩ = .ok [] :=
          billRolled_of_unpriced (declared.symm.trans (priceUsed_nil built begins consumable)) no_credit
        obtain ⟨same_drafts, same_outcome⟩ := billEach_cons_nil _ nothing
        exact ⟨same_drafts.symm, same_outcome.symm⟩
      · rw [if_neg undeclared]
        exact billEach_cons_congr (billRolled_congr rfl rfl declared) drafts outcome

/-- Consumption of undeclared units does not matter to billing where there is no credit for any time
between two transitions: without its records the same is billed, with the same outcome. -/
theorem undeclared_units_inert {fresh : UsageInterval} {closed : Bool}
    (built : fresh.build closed = .ok interval) (consumable : interval.usage.usageType = .consumable)
    (chronological : Rollup.Chronological interval.rawUsage)
    (no_credit : ∀ pair ∈ Rollup.pairs interval.transitions, interval.NoCredit existing pair) :
    (interval.declaredOnly.bill existing).drafts = (interval.bill existing).drafts ∧
      (interval.declaredOnly.bill existing).next = (interval.bill existing).next := by
  have increasing := increasing_of_build built
  obtain ⟨event, _, transitions, begins_fresh, _, same, _⟩ := spaced_of_build built
  have is_built : interval.isBuilt = true := by rw [same]; rfl
  have begins : interval.firstEvent = .ok event := by rw [same]; exact begins_fresh
  have usage : interval.usageRolledUp = Rollup.used .consumable event.subscriptionId interval.rawUsage
      (Rollup.pairs interval.transitions) := by
    rw [usageRolledUp_eq is_built begins, Rollup.rollUp_eq chronological increasing, consumable]
  have usage_declared : interval.declaredOnly.usageRolledUp = Rollup.used .consumable event.subscriptionId
      (Rollup.ofUnits interval.declares interval.rawUsage) (Rollup.pairs interval.transitions) := by
    have kept : Rollup.Chronological (Rollup.ofUnits interval.declares interval.rawUsage) :=
      chronological.filter _
    rw [← consumable, ← Rollup.rollUp_eq kept increasing]
    exact usageRolledUp_eq is_built begins
  obtain ⟨drafts, next⟩ := bill_of_built existing is_built begins
  have built_declared : interval.declaredOnly.isBuilt = true := is_built
  have begins_declared : interval.declaredOnly.firstEvent = .ok event := begins
  obtain ⟨drafts_declared, next_declared⟩ := bill_of_built existing built_declared begins_declared
  obtain ⟨same_drafts, same_outcome⟩ := billEach_declared is_built begins consumable event.subscriptionId
    interval.rawUsage no_credit
  rw [usage] at drafts next
  rw [usage_declared, billEach_declaredOnly] at drafts_declared next_declared
  rw [drafts, next, drafts_declared, next_declared, same_drafts, same_outcome, nextNotification_declaredOnly]
  exact ⟨rfl, rfl⟩

end UsageInterval

namespace Calls

def withData : UsageInterval where
  __ := untilFebruary
  target := march
  rawUsage := [⟨january, "megabytes", some 700⟩, ⟨january, "minutes", some 25⟩,
    ⟨midJanuary, "megabytes", none⟩, ⟨february, "megabytes", some 300⟩]

theorem undeclared_data_inert :
    withData.declaredOnly.rawUsage = [⟨january, "minutes", some 25⟩] ∧
      ∃ interval, withData.build false = .ok interval ∧
        (interval.declaredOnly.bill [paid 2]).drafts = (interval.bill [paid 2]).drafts ∧
        (interval.declaredOnly.bill [paid 2]).next = (interval.bill [paid 2]).next := by
  have built : withData.build false =
      .ok { withData with phase := .built [january, february, march] } := by rfl
  have chronological : Rollup.Chronological withData.rawUsage := by
    simp only [Rollup.Chronological, withData]
    decide
  refine ⟨by decide, _, built, UsageInterval.undeclared_units_inert built rfl chronological ?_⟩
  refine List.forall_mem_cons.2 ⟨⟨.ofInt 2, by decide, by decide⟩, ?_⟩
  exact List.forall_mem_singleton.2 ⟨.zero, by decide, by decide⟩

end Calls

end Arrears
