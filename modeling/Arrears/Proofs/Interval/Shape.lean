import Arrears.Proofs.Interval.Stepwise

/-! The shape of what a run gives. First stands a marker for each pair of transitions. Behind the
markers the pairs with usage follow in their order, each with the drafts for what is left of its
price, which come to more than nothing; and a pair that is paid up has none. -/

set_option autoImplicit false

namespace Arrears

structure Batch where
  start : Date
  stop : Date
  drafts : List Draft

/-- Some drafts, all for the time between two dates in which something was recorded, that come to
more than nothing when they are added up; there is just one unless each line has its own. -/
structure Batch.Sound (interval : UsageInterval) (batch : Batch) : Prop where
  some_draft : batch.drafts ≠ []
  spans : ∀ draft ∈ batch.drafts, draft.Spans interval.usage.name batch.start batch.stop
  recorded : ∃ record ∈ interval.rawUsage, batch.start ≤ record.date ∧ record.date < batch.stop
  positive : ∃ amount, Decimal.sum (batch.drafts.map Draft.amount) = .ok amount ∧
    Decimal.zero.lt amount = .ok true
  single : interval.settings.modeFor interval.tenant = .aggregate → ∃ draft, batch.drafts = [draft]

namespace UsageInterval

variable {collecting interval : UsageInterval} {event : BillingEvent} {existing : List Item} {date : Date}
  {rolled : RolledUsage} {drafts : List Draft} {closed : Bool}

/-- The earlier items for the usage between two transitions come to its price already, or to more. -/
def PaidUp (interval : UsageInterval) (existing : List Item) (rolled : RolledUsage) : Prop :=
  ∃ candidates due before, interval.priceUsed rolled.units = .ok candidates ∧
    Line.total candidates = .ok due ∧
    Reconciliation.billedAmount (interval.billedBefore existing rolled) = .ok before ∧
    due.le before = .ok true

/-! ## One pair -/

theorem billRolled_paidUp (paid : interval.PaidUp existing rolled)
    (success : interval.billRolled event existing rolled = .ok drafts) : drafts = [] := by
  obtain ⟨_, _, _, priced, summed, found, less⟩ := paid
  obtain ⟨_, _, _, priced', summed', found', bills⟩ := billRolled_eq_ok.1 success
  cases Except.ok.inj (priced.symm.trans priced')
  cases Except.ok.inj (summed.symm.trans summed')
  cases Except.ok.inj (found.symm.trans found')
  cases bills with
  | covered => rfl
  | absorbed => rfl
  | billed asked netted total something =>
    by_cases none : interval.billedBefore existing rolled = []
    · -- without earlier items the price itself is no more than zero, and all that is left
      rw [none] at found netted
      cases found
      cases Except.ok.inj ((Reconciliation.net_nil _).symm.trans netted)
      cases Except.ok.inj (summed.symm.trans total)
      cases less.symm.trans something
    · rw [Reconciliation.isNeeded, if_neg (by simpa using none), Decimal.lt_of_le less] at asked
      cases asked

theorem sum_itemsFor_positive {start stop : Date} {lines : List Line} {amount : Decimal}
    (summed : Line.total lines = .ok amount) (something : amount.le .zero = .ok false)
    (made : interval.itemsFor event start stop amount lines = .ok drafts) :
    ∃ again, Decimal.sum (drafts.map Draft.amount) = .ok again ∧ Decimal.zero.lt again = .ok true := by
  have more := Decimal.lt_of_not_le something
  rcases sum_amounts_itemsFor summed made with same | again
  · exact ⟨amount, same, more⟩
  · rw [again]
    exact Decimal.zero_lt_zero_add summed more

theorem itemsFor_aggregate {start stop : Date} {lines : List Line} {amount : Decimal}
    (aggregate : interval.settings.modeFor interval.tenant = .aggregate)
    (made : interval.itemsFor event start stop amount lines = .ok drafts) : ∃ draft, drafts = [draft] := by
  rw [itemsFor, aggregate] at made
  obtain ⟨_, _, same⟩ := bind_eq_ok.1 made
  exact ⟨_, (Except.ok.inj same).symm⟩

theorem billRolled_sound (some_draft : drafts ≠ [])
    (recorded : ∃ record ∈ interval.rawUsage, rolled.start ≤ record.date ∧ record.date < rolled.stop)
    (success : interval.billRolled event existing rolled = .ok drafts) :
    Batch.Sound interval ⟨rolled.start, rolled.stop, drafts⟩ := by
  have spans := spans_billRolled success
  obtain ⟨_, _, _, _, _, _, bills⟩ := billRolled_eq_ok.1 success
  cases bills with
  | covered => exact absurd rfl some_draft
  | absorbed => exact absurd rfl some_draft
  | billed _ _ total something made =>
    exact {
      some_draft, spans, recorded
      positive := sum_itemsFor_positive total something made
      single := fun aggregate => itemsFor_aggregate aggregate made }

/-! ## All pairs -/

theorem recorded_of_rolledUp (chronological : Rollup.Chronological interval.rawUsage)
    (increasing : Increasing interval.transitions) (built : interval.isBuilt = true)
    (begins : interval.firstEvent = .ok event) :
    ∀ rolled ∈ interval.usageRolledUp,
      ∃ record ∈ interval.rawUsage, rolled.start ≤ record.date ∧ record.date < rolled.stop := by
  rw [usageRolledUp_eq built begins, Rollup.rollUp_eq chronological increasing]
  intro rolled member
  obtain ⟨pair, _, some_record, rfl⟩ := Rollup.mem_used.1 member
  obtain ⟨record, within⟩ := List.exists_mem_of_ne_nil _ some_record
  obtain ⟨among, between⟩ := List.mem_filter.1 within
  exact ⟨record, among, of_decide_eq_true between⟩

/-- The batches of a run: pair by pair what is billed, where that is something. -/
def batches (interval : UsageInterval) (event : BillingEvent) (existing : List Item) : List Batch :=
  (interval.usageRolledUp.map fun rolled =>
    ⟨rolled.start, rolled.stop, interval.rolledDrafts event existing rolled⟩).filter
      fun batch : Batch => !batch.drafts.isEmpty

theorem mem_batches {batch : Batch} : batch ∈ interval.batches event existing ↔
    batch.drafts ≠ [] ∧ ∃ rolled ∈ interval.usageRolledUp,
      ⟨rolled.start, rolled.stop, interval.rolledDrafts event existing rolled⟩ = batch := by
  simp [batches, List.mem_filter, List.mem_map, and_comm]

theorem flatMap_batches : (interval.batches event existing).flatMap Batch.drafts =
    interval.usageRolledUp.flatMap (interval.rolledDrafts event existing) := by
  have made : (interval.batches event existing).map Batch.drafts =
      (interval.usageRolledUp.map (interval.rolledDrafts event existing)).filter fun drafts => !drafts.isEmpty := by
    rw [batches, List.filter_map, List.filter_map, List.map_map]
    rfl
  rw [List.flatMap_def, made, List.flatten_filter_not_isEmpty, List.flatMap_def]

/-- What a run on a built interval gives: nothing with fewer than two transitions; else a marker
without an amount for each pair of them, and behind the markers a sound batch for some of the pairs,
in their order, but for none that is paid up. -/
theorem bill_batched (built : collecting.build closed = .ok interval)
    (chronological : Rollup.Chronological interval.rawUsage)
    (success : (interval.bill existing).next = .ok date) :
    Increasing interval.transitions ∧
      (interval.transitions.length < 2 → (interval.bill existing).drafts = []) ∧
      ∃ (markers : List Draft) (batches : List Batch),
        (interval.bill existing).drafts = markers ++ batches.flatMap Batch.drafts ∧
        (markers.map fun marker => (marker.start, marker.stop, marker.amount)) =
          (Rollup.pairs interval.transitions).map (fun pair => (pair.1, some pair.2, Decimal.zero)) ∧
        (batches.map fun batch => (batch.start, batch.stop)).Sublist (Rollup.pairs interval.transitions) ∧
        (∀ batch ∈ batches, batch.Sound interval) ∧
        ∀ rolled ∈ interval.usageRolledUp, interval.PaidUp existing rolled →
          ∀ batch ∈ batches, (batch.start, batch.stop) ≠ (rolled.start, rolled.stop) := by
  have increasing := increasing_of_build built
  obtain ⟨event, bills⟩ := bills_of_success success
  refine ⟨increasing, fun short => ?_, interval.markers event, interval.batches event existing, ?_, ?_, ?_, ?_, ?_⟩
  · rw [bills.drafts, usageRolledUp_of_few short, markers, pairs_of_few short]
    rfl
  · rw [bills.drafts, flatMap_batches]
  · rw [markers, List.map_map]
    rfl
  · refine (List.filter_sublist.map _).trans ?_
    rw [List.map_map]
    exact interval.usageRolledUp_sublist
  · intro batch member
    obtain ⟨some_draft, rolled, among, rfl⟩ := mem_batches.1 member
    have recorded := recorded_of_rolledUp chronological increasing bills.ready.built bills.ready.begins rolled among
    exact billRolled_sound some_draft recorded (bills.each rolled among)
  · rintro rolled among paid batch member same
    obtain ⟨some_draft, own, listed, rfl⟩ := mem_batches.1 member
    obtain ⟨same_start, same_stop⟩ : own.start = rolled.start ∧ own.stop = rolled.stop := Prod.mk.inj same
    -- a pair has its usage but once
    have found := rolledFor?_eq_some increasing listed
    rw [same_start, same_stop, rolledFor?_eq_some increasing among] at found
    cases found
    exact some_draft (billRolled_paidUp paid (bills.each rolled among))

open Calls (paid january february march) in
theorem calls_batched :
    Rollup.Chronological Calls.interval.rawUsage ∧
      (Calls.interval.bill [paid 1]).next = .ok march ∧
      ((Calls.interval.bill [paid 1]).drafts.map fun draft => (draft.start, draft.stop, draft.amount)) =
        [(january, some february, .zero), (january, some february, .ofInt 3)] ∧
      ∃ (markers : List Draft) (batches : List Batch),
        (Calls.interval.bill [paid 1]).drafts = markers ++ batches.flatMap Batch.drafts ∧
        (markers.map fun marker => (marker.start, marker.stop, marker.amount)) =
          (Rollup.pairs Calls.interval.transitions).map (fun pair => (pair.1, some pair.2, Decimal.zero)) ∧
        (batches.map fun batch => (batch.start, batch.stop)).Sublist
          (Rollup.pairs Calls.interval.transitions) ∧
        (∀ batch ∈ batches, batch.Sound Calls.interval) ∧
        ∀ rolled ∈ Calls.interval.usageRolledUp, Calls.interval.PaidUp [paid 1] rolled →
          ∀ batch ∈ batches, (batch.start, batch.stop) ≠ (rolled.start, rolled.stop) := by
  have chronological : Rollup.Chronological Calls.interval.rawUsage := List.pairwise_singleton _ _
  have success : (Calls.interval.bill [paid 1]).next = .ok march := by rfl
  exact ⟨chronological, success, by rfl,
    (bill_batched Calls.build_collecting chronological success).2.2⟩

end UsageInterval

end Arrears
