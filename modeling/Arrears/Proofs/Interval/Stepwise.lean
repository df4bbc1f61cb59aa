import Arrears.Proofs.Cycle.Bound
import Arrears.Proofs.Cycle.Usage
import Arrears.Proofs.Decimal.Rounded
import Arrears.Proofs.Interval.Pairs

/-! Billing step by step. A later run of the same section, up to a later target or up to the end of
the section, has the transitions of an earlier run and more behind them. What the earlier run
billed covers its own pairs of transitions and touches no others. So the two runs bill together
what one run would have billed. -/

set_option autoImplicit false

namespace Arrears

namespace Decimal

theorem sum_zero_cons (amounts : List Decimal) : sum (zero :: amounts) = sum amounts := by
  have none : zero.add zero = .ok zero := rfl
  rw [sum, List.foldlM_cons, none]
  rfl

theorem sum_singleton (d : Decimal) : sum [d] = zero.add d := by
  rw [sum, List.foldlM_cons]
  cases zero.add d <;> rfl

end Decimal

theorem Reconciliation.net_nil (candidates : List Line) : net [] candidates = .ok candidates := by
  rw [net, netItems]
  exact congrArg _ (List.append_nil candidates)

namespace UsageInterval

/-- An interval that goes on where another stopped: the same section and records from the same first
event on, in the same form. Target and later events may differ. -/
structure Continues (early late : UsageInterval) : Prop where
  usage : late.usage = early.usage
  account : late.accountId = early.accountId
  invoice : late.invoiceId = early.invoiceId
  records : late.rawUsage = early.rawUsage
  known : late.rawUsageStart = early.rawUsageStart
  zone : late.zone = early.zone
  form : late.settings.modeFor late.tenant = early.settings.modeFor early.tenant
  first : late.events.head? = early.events.head?

variable {interval early late : UsageInterval} {event : BillingEvent} {existing out : List Item}
  {date start stop : Date} {closed : Bool} {rolled : RolledUsage} {drafts : List Draft}

theorem firstEvent_eq_ok : interval.firstEvent = .ok event ↔ interval.events.head? = some event := by
  unfold firstEvent
  cases interval.events with
  | nil => exact ⟨nofun, nofun⟩
  | cons first events => exact ⟨fun same => congrArg some (Except.ok.inj same),
      fun same => congrArg Except.ok (Option.some.inj same)⟩

theorem Continues.begins (continues : Continues early late) (begins : early.firstEvent = .ok event) :
    late.firstEvent = .ok event :=
  firstEvent_eq_ok.2 (continues.first.trans (firstEvent_eq_ok.1 begins))

theorem Continues.localDate (continues : Continues early late) (event : BillingEvent) :
    late.localDate event = early.localDate event := by
  rw [UsageInterval.localDate, continues.zone, UsageInterval.localDate]

/-! ## Transitions and usage -/

theorem Continues.transitions (continues : Continues early late) {transitions more : List Date}
    (reached : start ≤ early.target) (reached_late : start ≤ late.target)
    (ends : late.stopDate closed = .ok stop) (ahead : early.target ≤ stop)
    (spaced : Spaced early false event start transitions) (spaced_late : Spaced late closed event start more) :
    transitions <+: more := by
  cases spaced with
  | early before => exact absurd reached (Int.not_le.2 before)
  | between _ stops aligned cycles =>
    cases stops
    cases spaced_late with
    | early before => exact absurd reached_late (Int.not_le.2 before)
    | between _ stops_late aligned_late cycles_late =>
      cases Except.ok.inj (ends.symm.trans stops_late)
      rw [continues.usage] at aligned_late
      cases Except.ok.inj (aligned.symm.trans aligned_late)
      rw [transitionsBetween_open, continues.known]
      have front := CycleGrid.datesUpTo_prefix ahead cycles cycles_late
      exact (openTransitions_mono front).trans (open_prefix_transitionsBetween _ _ _ _ _)

theorem Continues.billRolled (continues : Continues early late) (built : early.isBuilt = true)
    (built_late : late.isBuilt = true) (begins : early.firstEvent = .ok event) (existing : List Item)
    (rolled : RolledUsage) :
    late.billRolled event existing rolled = early.billRolled event existing rolled := by
  have priced (used : List RolledUnit) : late.priceUsed used = early.priceUsed used := by
    rw [priceUsed, priceUsed, requireBuilt, requireBuilt, if_pos built, if_pos built_late, begins,
      continues.begins begins, continues.usage]
  have items (amount : Decimal) (lines : List Line) :
      late.itemsFor event rolled.start rolled.stop amount lines =
        early.itemsFor event rolled.start rolled.stop amount lines := by
    unfold itemsFor draft
    rw [continues.form, continues.invoice, continues.account, continues.usage]
  unfold UsageInterval.billRolled
  simp only [priced, items, continues.usage]

/-! ## What the earlier run billed -/

/-- An item for each line adds up as the price does; one item for all of them is added to zero. -/
theorem sum_amounts_itemsFor {lines : List Line} {amount : Decimal} (summed : Line.total lines = .ok amount)
    (made : interval.itemsFor event start stop amount lines = .ok drafts) :
    Decimal.sum (drafts.map Draft.amount) = .ok amount ∨
      Decimal.sum (drafts.map Draft.amount) = Decimal.zero.add amount := by
  unfold itemsFor at made
  split at made
  next =>
    cases made
    rw [List.map_map]
    exact .inl summed
  next =>
    obtain ⟨blob, _, same⟩ := bind_eq_ok.1 made
    cases same
    rw [List.map_singleton, Decimal.sum_singleton]
    exact .inr rfl

theorem sum_itemsFor {lines : List Line} {amount : Decimal} (summed : Line.total lines = .ok amount)
    (something : amount.le .zero = .ok false)
    (made : interval.itemsFor event start stop amount lines = .ok drafts) :
    ∃ again, Decimal.sum (drafts.map Draft.amount) = .ok again ∧ again.lt amount = .ok false := by
  rcases sum_amounts_itemsFor summed made with same | again
  · exact ⟨amount, same, Decimal.lt_self something⟩
  · rw [again]
    exact Decimal.zero_add_not_lt summed something

theorem BillsRolled.sum_alone {candidates : List Line} {due before : Decimal}
    (bills : BillsRolled interval event [] rolled candidates due before drafts)
    (summed : Line.total candidates = .ok due) :
    ∃ again, Decimal.sum (drafts.map Draft.amount) = .ok again ∧ again.lt due = .ok false := by
  have own {lines : List Line} (netted : Reconciliation.net [] candidates = .ok lines) :
      candidates = lines :=
    Except.ok.inj ((Reconciliation.net_nil candidates).symm.trans netted)
  cases bills with
  | covered asked => cases asked
  | absorbed _ netted total nothing =>
    cases own netted
    cases Except.ok.inj (summed.symm.trans total)
    exact ⟨.zero, rfl, Decimal.lt_of_le nothing⟩
  | billed _ netted total something made =>
    cases own netted
    cases Except.ok.inj (summed.symm.trans total)
    exact sum_itemsFor summed something made

/-- What was billed beside no other items covers its usage: nothing is left to bill. -/
theorem billRolled_issued (success : interval.billRolled event [] rolled = .ok drafts)
    (issued : (interval.billedBefore out rolled).map Item.toDraft =
      interval.draft event rolled.start rolled.stop .zero none .null .null :: drafts) :
    interval.billRolled event out rolled = .ok [] := by
  obtain ⟨candidates, due, _, priced, summed, _, bills⟩ := billRolled_eq_ok.1 success
  have some_item : (interval.billedBefore out rolled).isEmpty = false := by
    cases none : interval.billedBefore out rolled with
    | nil =>
      rw [none] at issued
      cases issued
    | cons => rfl
  have amounts : Reconciliation.billedAmount (interval.billedBefore out rolled) =
      Decimal.sum (drafts.map Draft.amount) := by
    have same := congrArg (fun drafts => Decimal.sum (drafts.map Draft.amount)) issued
    rw [List.map_map, List.map_cons] at same
    exact same.trans (Decimal.sum_zero_cons _)
  obtain ⟨again, sum, covered⟩ := bills.sum_alone summed
  rw [← amounts] at sum
  refine billRolled_eq_ok.2 ⟨candidates, due, again, priced, summed, sum, .covered ?_⟩
  rw [Reconciliation.isNeeded, some_item]
  exact covered

theorem billedBefore_later {first : UsageInterval} (bills : Bills first event existing date)
    (issued : out.map Item.toDraft = (first.bill existing).drafts) {transitions : List Date}
    (increasing : Increasing transitions) {rest : List (Date × Date)}
    (split : Rollup.pairs transitions = Rollup.pairs first.transitions ++ rest)
    (member : (rolled.start, rolled.stop) ∈ rest) : first.billedBefore out rolled = [] := by
  apply List.filter_eq_nil_iff.2
  intro item among
  obtain ⟨start, stop, pair, spans⟩ := bills.spansPair issued item among
  rw [bills_of_spans spans, decide_eq_true_eq]
  rintro ⟨from_start, to_stop⟩
  have pair_late : (start, stop) ∈ Rollup.pairs transitions := split ▸ List.mem_append_left _ pair
  have member_late : (rolled.start, rolled.stop) ∈ Rollup.pairs transitions :=
    split ▸ List.mem_append_right _ member
  obtain ⟨same, _⟩ := Rollup.pairs_within increasing pair_late member_late from_start to_stop
  -- all pairs of the earlier run start before those behind them
  have ordered := Rollup.pairwise_pairs increasing
  rw [split] at ordered
  have before := (List.pairwise_append.1 ordered).2.2 _ pair _ member
  rw [same] at before
  exact absurd before (Int.lt_irrefl _)

/-! ## Both runs together -/

theorem billRolled_of_billedBefore {other : List Item}
    (same : interval.billedBefore existing rolled = interval.billedBefore other rolled) :
    interval.billRolled event existing rolled = interval.billRolled event other rolled := by
  rw [billedBefore, billedBefore] at same
  unfold billRolled
  simp only [same]

/-- Two built intervals of which the second has the transitions of the first in front: a run of the
second that is given the items of the first bills what the first has not billed. -/
theorem Continues.bill (continues : Continues early late) (built : early.isBuilt = true)
    (built_late : late.isBuilt = true) (begins : early.firstEvent = .ok event)
    (chronological : Rollup.Chronological early.rawUsage) (increasing : Increasing late.transitions)
    (front : early.transitions <+: late.transitions) (success : (early.bill []).next = .ok date)
    (issued : out.map Item.toDraft = (early.bill []).drafts) :
    (late.bill out).next = (late.bill []).next ∧
      ∃ billed rest, (early.bill []).drafts = early.markers event ++ billed ∧
        (late.bill out).drafts = late.markers event ++ rest ∧
        (late.bill []).drafts = late.markers event ++ (billed ++ rest) := by
  obtain ⟨_, bills⟩ := bills_of_success success
  cases Except.ok.inj (begins.symm.trans bills.ready.begins)
  have begins_late := continues.begins begins
  have increasing_early : Increasing early.transitions := increasing.sublist front.sublist
  obtain ⟨rest, split⟩ := Rollup.pairs_prefix front
  have usage_early : early.usageRolledUp = Rollup.used early.usage.usageType event.subscriptionId
      early.rawUsage (Rollup.pairs early.transitions) := by
    rw [usageRolledUp_eq built begins, Rollup.rollUp_eq chronological increasing_early]
  -- the usage that is rolled up is that of the first run, and what lies behind its last transition
  obtain ⟨more, usage_late, beyond⟩ : ∃ more, late.usageRolledUp = early.usageRolledUp ++ more ∧
      ∀ rolled ∈ more, (rolled.start, rolled.stop) ∈ rest := by
    refine ⟨Rollup.used early.usage.usageType event.subscriptionId early.rawUsage rest, ?_, ?_⟩
    · rw [usageRolledUp_eq built_late begins_late, continues.records, continues.usage,
        Rollup.rollUp_eq chronological increasing, ← split, Rollup.used_append, ← usage_early]
    · exact List.forall_mem_map.2 fun _ member => (List.mem_filter.1 member).1
  have alone : ∀ rolled ∈ early.usageRolledUp, late.billRolled event [] rolled =
      .ok (early.rolledDrafts event [] rolled) :=
    fun rolled member => (continues.billRolled built built_late begins [] rolled).trans
      (bills.each rolled member)
  have covered : ∀ rolled ∈ early.usageRolledUp, late.billRolled event out rolled = .ok [] :=
    fun rolled member => (continues.billRolled built built_late begins out rolled).trans
      (billRolled_issued (bills.each rolled member) (bills.issued_drafts increasing_early issued member))
  have untouched : late.billEach event out more = late.billEach event [] more := by
    apply billEach_congr
    intro rolled member
    apply billRolled_of_billedBefore
    rw [billedBefore, continues.usage]
    exact billedBefore_later bills issued increasing split.symm (beyond rolled member)
  obtain ⟨drafts_alone, next_alone⟩ := bill_of_built [] built_late begins_late
  obtain ⟨drafts_out, next_out⟩ := bill_of_built out built_late begins_late
  obtain ⟨billed_alone, outcome_alone⟩ := billEach_append more alone
  obtain ⟨billed_out, outcome_out⟩ := billEach_append more covered
  rw [usage_late, outcome_alone] at next_alone
  rw [usage_late, outcome_out, untouched] at next_out
  rw [usage_late, billed_alone] at drafts_alone
  rw [usage_late, billed_out, untouched, List.flatMap_eq_nil_iff.2 fun _ _ => rfl, List.nil_append] at drafts_out
  exact ⟨next_out.trans next_alone.symm, _, _, bills.drafts, drafts_out, drafts_alone⟩

/-- Billing step by step is billing once. After a run of an open interval up to a target, a run up to
a later end that is given the items of the first has the transitions of the first in front, ends as
it would without these items, and bills behind its markers just what the first has not billed: the
bills of the two runs in order are the bill of a single run. -/
theorem stepwise_bills_once {first later : UsageInterval} (continues : Continues early late)
    (chronological : Rollup.Chronological early.rawUsage)
    (built : early.build false = .ok first) (built_late : late.build closed = .ok later)
    (begins : early.firstEvent = .ok event) (dated : early.localDate event = .ok start)
    (reached : start ≤ early.target) (reached_late : start ≤ late.target)
    (ends : late.stopDate closed = .ok stop) (ahead : early.target ≤ stop)
    (success : (first.bill []).next = .ok date)
    (issued : out.map Item.toDraft = (first.bill []).drafts) :
    first.transitions <+: later.transitions ∧ (later.bill out).next = (later.bill []).next ∧
      ∃ billed rest, (first.bill []).drafts = first.markers event ++ billed ∧
        (later.bill out).drafts = later.markers event ++ rest ∧
        (later.bill []).drafts = later.markers event ++ (billed ++ rest) := by
  obtain ⟨_, _, transitions, begins', dated', rfl, spaced⟩ := spaced_of_build built
  cases Except.ok.inj (begins.symm.trans begins')
  cases Except.ok.inj (dated.symm.trans dated')
  obtain ⟨_, _, transitions_late, begins_late, dated_late, rfl, spaced_late⟩ := spaced_of_build built_late
  cases Except.ok.inj ((continues.begins begins).symm.trans begins_late)
  cases Except.ok.inj (dated.symm.trans ((continues.localDate event).symm.trans dated_late))
  have front := continues.transitions reached reached_late ends ahead spaced spaced_late
  have continues_built : Continues { early with phase := .built transitions }
      { late with phase := .built transitions_late } := { continues with }
  exact ⟨front, continues_built.bill rfl rfl begins chronological spaced_late.increasing front success issued⟩

end UsageInterval

/-! ## Calls in two steps

Calls of January and February, billed at the end of January and once more when the section ends. -/

namespace Calls

def ending : BillingEvent := { event with effective := .day march }

def untilFebruary : UsageInterval :=
  { collecting with rawUsage := [⟨january, "minutes", some 25⟩, ⟨february, "minutes", some 7⟩] }

def untilEnd : UsageInterval := { untilFebruary with target := march, events := [event, ending] }

def builtFebruary : UsageInterval := { untilFebruary with phase := .built [january, february] }
def builtEnd : UsageInterval := { untilEnd with phase := .built [january, february, march] }

theorem continues_untilEnd : untilFebruary.Continues untilEnd := ⟨rfl, rfl, rfl, rfl, rfl, rfl, rfl, rfl⟩

theorem stepwise_calls : builtFebruary.transitions <+: builtEnd.transitions ∧
    (builtEnd.bill (Item.number 0 (builtFebruary.bill []).drafts)).next = (builtEnd.bill []).next ∧
      ∃ billed rest, (builtFebruary.bill []).drafts = builtFebruary.markers event ++ billed ∧
        (builtEnd.bill (Item.number 0 (builtFebruary.bill []).drafts)).drafts =
          builtEnd.markers event ++ rest ∧
        (builtEnd.bill []).drafts = builtEnd.markers event ++ (billed ++ rest) := by
  have chronological : Rollup.Chronological untilFebruary.rawUsage := List.pairwise_pair.2 (by decide)
  have built : untilFebruary.build false = .ok builtFebruary := by rfl
  have built_late : untilEnd.build true = .ok builtEnd := by rfl
  have dated : untilFebruary.localDate event = .ok january := rfl
  have ends : untilEnd.stopDate true = .ok march := rfl
  obtain ⟨date, success⟩ : ∃ date, (builtFebruary.bill []).next = .ok date := ⟨_, rfl⟩
  have issued := (Issued.number 0 (builtFebruary.bill []).drafts).drafts
  exact UsageInterval.stepwise_bills_once continues_untilEnd chronological built built_late rfl dated
    (by decide) (by decide) ends (by decide) success issued

end Calls

end Arrears
