import Arrears.Proofs.Interval.Run

/-! A run pair by pair. The drafts of a run are for pairs of transitions, which do not overlap. So the
drafts for one pair are its marker and its own bill, and of the items that a run issued those count
for a pair that were issued for it. -/

set_option autoImplicit false

namespace Arrears.UsageInterval

variable {interval : UsageInterval} {event : BillingEvent} {existing : List Item} {date : Date}
  {rolled : RolledUsage}

theorem isFor_of_spans {usageName : String} {start stop start' stop' : Date} {draft : Draft}
    (spans : draft.Spans usageName start stop) :
    draft.isFor start' stop' = decide (start = start' ∧ stop = stop') := by
  simp only [Draft.isFor, spans.start, spans.stop, Option.some.injEq]

theorem bills_of_spans {usageName : String} {start stop start' stop' : Date} {item : Item}
    (spans : item.toDraft.Spans usageName start stop) :
    Reconciliation.bills usageName start' stop' item = decide (start' ≤ start ∧ stop ≤ stop') := by
  rw [Reconciliation.bills, spans.itemType, spans.usageName, spans.start, spans.stop, Json.eqv_str,
    beq_self_eq_true, beq_self_eq_true, Bool.decide_and]
  rfl

/-- Billing the usage between two transitions, seen from the pair: its usage, if there is any. -/
def rolledFor? (interval : UsageInterval) (start stop : Date) : Option RolledUsage :=
  interval.usageRolledUp.find? fun rolled => decide (rolled.start = start ∧ rolled.stop = stop)

def draftsFor (interval : UsageInterval) (event : BillingEvent) (existing : List Item)
    (start stop : Date) : List Draft :=
  match interval.rolledFor? start stop with
  | some rolled => interval.rolledDrafts event existing rolled
  | none => []

theorem increasing_starts (increasing : Increasing interval.transitions) :
    interval.usageRolledUp.Pairwise fun rolled other => rolled.start < other.start := by
  have pairs := (Rollup.pairwise_pairs increasing).sublist interval.usageRolledUp_sublist
  rw [List.pairwise_map] at pairs
  exact pairs

-- Of the drafts for all usage, those for one pair are those for its own usage.
theorem filter_flatMap {rolled : List RolledUsage} {drafts : RolledUsage → List Draft}
    {usageName : String} (ordered : rolled.Pairwise fun one other => one.start < other.start)
    (spans : ∀ usage ∈ rolled, ∀ draft ∈ drafts usage, draft.Spans usageName usage.start usage.stop)
    (start stop : Date) :
    (rolled.flatMap drafts).filter (Draft.isFor start stop) =
      match rolled.find? fun usage => decide (usage.start = start ∧ usage.stop = stop) with
      | some usage => drafts usage
      | none => [] := by
  induction rolled with
  | nil => rfl
  | cons usage rolled ih =>
    obtain ⟨beyond, ordered⟩ := List.pairwise_cons.1 ordered
    obtain ⟨own, others⟩ := List.forall_mem_cons.1 spans
    rw [List.flatMap_cons, List.filter_append]
    -- later usage starts later, so that one pair is met only once
    by_cases same : usage.start = start ∧ usage.stop = stop
    · have all : (drafts usage).filter (Draft.isFor start stop) = drafts usage := by
        apply List.filter_eq_self.2
        intro draft member
        rw [isFor_of_spans (own draft member), decide_eq_true same]
      have none_later : (rolled.flatMap drafts).filter (Draft.isFor start stop) = [] := by
        apply List.filter_eq_nil_iff.2
        intro draft member
        obtain ⟨other, among, made⟩ := List.mem_flatMap.1 member
        have later := beyond other among
        rw [isFor_of_spans (others other among draft made), decide_eq_true_eq]
        rintro ⟨first, _⟩
        rw [first, same.1] at later
        exact absurd later (Int.lt_irrefl _)
      simp only [all, none_later, List.append_nil, List.find?_cons, same, and_self, decide_true]
    · have none : (drafts usage).filter (Draft.isFor start stop) = [] := by
        apply List.filter_eq_nil_iff.2
        intro draft member
        rw [isFor_of_spans (own draft member), decide_eq_true_eq]
        exact same
      simp only [none, List.nil_append, List.find?_cons, same, decide_false]
      exact ih ordered others

theorem filter_markers {start stop : Date} (increasing : Increasing interval.transitions)
    (pair : (start, stop) ∈ Rollup.pairs interval.transitions) :
    (interval.markers event).filter (Draft.isFor start stop) =
      [interval.draft event start stop .zero none .null .null] := by
  have once : (Rollup.pairs interval.transitions).Nodup := by
    apply (Rollup.pairwise_pairs increasing).imp
    rintro one _ earlier rfl
    exact absurd earlier (Int.lt_irrefl _)
  have only : (Rollup.pairs interval.transitions).filter (· == (start, stop)) = [(start, stop)] := by
    rw [List.filter_beq, List.count_eq_one_of_mem once pair]
    rfl
  have own (pair : Date × Date) : Draft.isFor start stop
      (interval.draft event pair.1 pair.2 .zero none .null .null) = (pair == (start, stop)) := by
    rw [isFor_of_spans (spans_draft interval event pair.1 pair.2 _ _ _ _), Bool.eq_iff_iff,
      decide_eq_true_eq, beq_iff_eq, Prod.ext_iff]
  have kept := List.filter_congr fun pair (_ : pair ∈ Rollup.pairs interval.transitions) => own pair
  rw [markers, List.filter_map]
  exact congrArg (List.map _) (kept.trans only)

theorem rolledFor?_eq_some (increasing : Increasing interval.transitions)
    (member : rolled ∈ interval.usageRolledUp) :
    interval.rolledFor? rolled.start rolled.stop = some rolled := by
  have ordered := increasing_starts increasing
  rw [rolledFor?]
  generalize interval.usageRolledUp = usage at ordered member
  induction usage with
  | nil => exact absurd member List.not_mem_nil
  | cons first usage ih =>
    obtain ⟨beyond, ordered⟩ := List.pairwise_cons.1 ordered
    rw [List.find?_cons]
    -- what stands in front starts earlier, and is passed over
    rcases List.mem_cons.1 member with rfl | later
    · simp only [and_self, decide_true]
    · have other : ¬ (first.start = rolled.start ∧ first.stop = rolled.stop) := by
        rintro ⟨same, _⟩
        have earlier := beyond rolled later
        rw [same] at earlier
        exact absurd earlier (Int.lt_irrefl _)
      rw [decide_eq_false other]
      exact ih ordered later

theorem of_rolledFor?_eq_some {start stop : Date} (found : interval.rolledFor? start stop = some rolled) :
    rolled ∈ interval.usageRolledUp ∧ rolled.start = start ∧ rolled.stop = stop := by
  rw [rolledFor?] at found
  have same := List.find?_some found
  exact ⟨List.mem_of_find?_eq_some found, of_decide_eq_true same⟩

theorem Bills.spans_rolled (bills : Bills interval event existing date) :
    ∀ rolled ∈ interval.usageRolledUp, ∀ draft ∈ interval.rolledDrafts event existing rolled,
      draft.Spans interval.usage.name rolled.start rolled.stop :=
  fun rolled member => spans_billRolled (bills.each rolled member)

/-- The drafts for a pair of transitions: its marker, and the bill for its usage. -/
theorem Bills.filter_drafts (bills : Bills interval event existing date)
    (increasing : Increasing interval.transitions) {start stop : Date}
    (pair : (start, stop) ∈ Rollup.pairs interval.transitions) :
    (interval.bill existing).drafts.filter (Draft.isFor start stop) =
      interval.draft event start stop .zero none .null .null ::
        interval.draftsFor event existing start stop := by
  rw [bills.drafts, List.filter_append, filter_markers increasing pair,
    filter_flatMap (increasing_starts increasing) bills.spans_rolled start stop]
  rfl

/-! ## Items that were issued -/

def SpansPair (interval : UsageInterval) (item : Item) : Prop :=
  ∃ start stop, (start, stop) ∈ Rollup.pairs interval.transitions ∧
    item.toDraft.Spans interval.usage.name start stop

theorem bills_eq_isFor (increasing : Increasing interval.transitions) {start stop : Date}
    (pair : (start, stop) ∈ Rollup.pairs interval.transitions) {item : Item}
    (issued : interval.SpansPair item) :
    Reconciliation.bills interval.usage.name start stop item = item.toDraft.isFor start stop := by
  obtain ⟨start', stop', pair', spans⟩ := issued
  rw [bills_of_spans spans, isFor_of_spans spans, decide_eq_decide]
  constructor
  · rintro ⟨from_start, to_stop⟩
    exact Rollup.pairs_within increasing pair' pair from_start to_stop
  · rintro ⟨rfl, rfl⟩
    exact ⟨Int.le_refl _, Int.le_refl _⟩

theorem map_billedItems (increasing : Increasing interval.transitions) {start stop : Date}
    (pair : (start, stop) ∈ Rollup.pairs interval.transitions) {items : List Item}
    (issued : ∀ item ∈ items, interval.SpansPair item) :
    (Reconciliation.billedItems interval.usage.name start stop items).map Item.toDraft =
      (items.map Item.toDraft).filter (Draft.isFor start stop) := by
  have same : Reconciliation.billedItems interval.usage.name start stop items =
      items.filter fun item => item.toDraft.isFor start stop :=
    List.filter_congr fun item member => bills_eq_isFor increasing pair (issued item member)
  rw [same, List.filter_map]
  rfl

variable {out : List Item}

theorem Bills.spansPair_of_mem (bills : Bills interval event existing date) {item : Item}
    (drafted : item.toDraft ∈ (interval.bill existing).drafts) : interval.SpansPair item := by
  rw [bills.drafts] at drafted
  rcases List.mem_append.1 drafted with marker | made
  · obtain ⟨⟨start, stop⟩, pair, same⟩ := List.mem_map.1 marker
    exact ⟨start, stop, pair, same ▸ spans_draft interval event start stop _ _ _ _⟩
  · obtain ⟨rolled, among, made⟩ := List.mem_flatMap.1 made
    have pair := interval.usageRolledUp_sublist.subset (List.mem_map_of_mem among)
    exact ⟨rolled.start, rolled.stop, pair, bills.spans_rolled rolled among item.toDraft made⟩

theorem Bills.spansPair (bills : Bills interval event existing date)
    (issued : out.map Item.toDraft = (interval.bill existing).drafts) :
    ∀ item ∈ out, interval.SpansPair item :=
  fun _ member => bills.spansPair_of_mem (issued ▸ List.mem_map_of_mem member)

theorem Bills.issued_drafts (bills : Bills interval event existing date)
    (increasing : Increasing interval.transitions)
    (issued : out.map Item.toDraft = (interval.bill existing).drafts)
    (member : rolled ∈ interval.usageRolledUp) :
    (interval.billedBefore out rolled).map Item.toDraft =
      interval.draft event rolled.start rolled.stop .zero none .null .null ::
        interval.rolledDrafts event existing rolled := by
  have pair := interval.usageRolledUp_sublist.subset (List.mem_map_of_mem member)
  rw [billedBefore, map_billedItems increasing pair (bills.spansPair issued), issued,
    bills.filter_drafts increasing pair, draftsFor, rolledFor?_eq_some increasing member]

end Arrears.UsageInterval
