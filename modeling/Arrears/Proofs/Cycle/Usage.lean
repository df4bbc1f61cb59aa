import Arrears.Proofs.Cycle.Transitions
import Mathlib.Algebra.BigOperators.Group.List.Basic
import Mathlib.Algebra.Ring.Int.Defs

/-! What is rolled up between transitions. For records in order of their dates, reading them once
gives each pair of transitions just the records of its own time, and the pairs share out all
records from the first transition up to the last. -/

set_option autoImplicit false

namespace Arrears.Rollup

def Chronological (records : List RawUsage) : Prop :=
  records.Pairwise fun record later => record.date ≤ later.date

def within (start stop : Date) (records : List RawUsage) : List RawUsage :=
  records.filter fun record => decide (start ≤ record.date ∧ record.date < stop)

/-- The usage of some times, each with its own records; a time without records has none. -/
def used (usageType : UsageType) (subscription : String) (records : List RawUsage)
    (intervals : List (Date × Date)) : List RolledUsage :=
  (intervals.filter fun pair => !(within pair.1 pair.2 records).isEmpty).map fun pair =>
    ⟨subscription, pair.1, pair.2, units usageType (within pair.1 pair.2 records)⟩

variable {records : List RawUsage} {usageType : UsageType} {subscription : String}

/-! ## Reading records once -/

theorem takeWhile_before (chronological : Chronological records) (stop : Date) :
    records.takeWhile (fun record => decide (record.date < stop)) =
      records.filter fun record => decide (record.date < stop) := by
  induction records with
  | nil => rfl
  | cons record records ih =>
    obtain ⟨later, chronological⟩ := List.pairwise_cons.1 chronological
    by_cases before : record.date < stop
    · rw [List.takeWhile_cons_of_pos (by simpa using before),
        List.filter_cons_of_pos (by simpa using before), ih chronological]
    · rw [List.takeWhile_cons_of_neg (by simpa using before), eq_comm, List.filter_eq_nil_iff]
      intro other member
      rcases List.mem_cons.1 member with rfl | member
      · simpa using before
      · have behind := later other member
        simp only [decide_eq_true_eq, Date.lt_def, Date.le_def] at before behind ⊢
        omega

theorem dropWhile_before (chronological : Chronological records) (stop : Date) :
    records.dropWhile (fun record => decide (record.date < stop)) =
      records.filter fun record => decide (stop ≤ record.date) := by
  induction records with
  | nil => rfl
  | cons record records ih =>
    obtain ⟨later, chronological⟩ := List.pairwise_cons.1 chronological
    by_cases before : record.date < stop
    · have excluded : ¬ stop ≤ record.date := Int.not_le.2 before
      rw [List.dropWhile_cons_of_pos (by simpa using before),
        List.filter_cons_of_neg (by simpa using excluded), ih chronological]
    · rw [List.dropWhile_cons_of_neg (by simpa using before), eq_comm, List.filter_eq_self]
      intro other member
      have behind : stop ≤ record.date := Int.not_lt.1 before
      rcases List.mem_cons.1 member with rfl | member
      · exact decide_eq_true behind
      · exact decide_eq_true (Int.le_trans behind (later other member))

/-- Dealing out the records from the first transition on gives each pair those of its time. -/
theorem deal_eq {first : Date} {dates : List Date} (chronological : Chronological records)
    (increasing : Increasing (first :: dates)) :
    deal usageType subscription (pairs (first :: dates))
        (records.filter fun record => decide (first ≤ record.date)) =
      used usageType subscription records (pairs (first :: dates)) := by
  induction dates generalizing first with
  | nil => rfl
  | cons second dates ih =>
    obtain ⟨beyond, increasing⟩ := List.pairwise_cons.1 increasing
    have next : first < second := beyond second List.mem_cons_self
    have behind : Chronological (records.filter fun record => decide (first ≤ record.date)) :=
      chronological.filter _
    have mine : (records.filter fun record => decide (first ≤ record.date)).takeWhile
        (fun record => decide (record.date < second)) = within first second records := by
      rw [takeWhile_before behind, List.filter_filter, within]
      apply List.filter_congr
      intro record _
      rw [Bool.decide_and, Bool.and_comm]
    have others : (records.filter fun record => decide (first ≤ record.date)).dropWhile
        (fun record => decide (record.date < second)) =
          records.filter fun record => decide (second ≤ record.date) := by
      rw [dropWhile_before behind, List.filter_filter]
      apply List.filter_congr
      intro record _
      rw [← Bool.decide_and, decide_eq_decide]
      exact and_iff_left_of_imp fun reached => Int.le_trans (Int.le_of_lt next) reached
    rw [pairs_cons, deal]
    simp only [mine, others, ih increasing, used]
    split
    next empty => rw [List.filter_cons_of_neg (by simpa using empty)]
    next some_record => rw [List.filter_cons_of_pos (by simpa using some_record), List.map_cons]

theorem within_eq_nil {start stop : Date}
    (outside : ∀ record ∈ records, start ≤ record.date → stop ≤ record.date) :
    within start stop records = [] := by
  apply List.filter_eq_nil_iff.2
  intro record member
  rw [decide_eq_true_eq]
  rintro ⟨reached, before⟩
  exact Int.not_le.2 before (outside record member reached)

theorem used_cons (records : List RawUsage) (pair : Date × Date) (intervals : List (Date × Date)) :
    used usageType subscription records (pair :: intervals) =
      if within pair.1 pair.2 records = [] then used usageType subscription records intervals
      else ⟨subscription, pair.1, pair.2, units usageType (within pair.1 pair.2 records)⟩ ::
        used usageType subscription records intervals := by
  rw [used, List.filter_cons, used]
  by_cases empty : within pair.1 pair.2 records = [] <;> simp [empty]

theorem used_eq_nil {intervals : List (Date × Date)}
    (outside : ∀ pair ∈ intervals, within pair.1 pair.2 records = []) :
    used usageType subscription records intervals = [] := by
  have none : (intervals.filter fun pair => !(within pair.1 pair.2 records).isEmpty) = [] := by
    apply List.filter_eq_nil_iff.2
    intro pair member
    rw [outside pair member]
    exact Bool.false_ne_true
  rw [used, none, List.map_nil]

theorem mem_used {intervals : List (Date × Date)} {rolled : RolledUsage} :
    rolled ∈ used usageType subscription records intervals ↔
      ∃ pair ∈ intervals, within pair.1 pair.2 records ≠ [] ∧
        ⟨subscription, pair.1, pair.2, units usageType (within pair.1 pair.2 records)⟩ = rolled := by
  simp [used, List.mem_map, List.mem_filter, and_assoc]

theorem mem_of_pair {dates : List Date} {pair : Date × Date} (member : pair ∈ pairs dates) :
    pair.1 ∈ dates ∧ pair.2 ∈ dates := by
  obtain ⟨start, stop⟩ := List.of_mem_zip member
  exact ⟨start, List.mem_of_mem_tail stop⟩

theorem pair_forward {dates : List Date} {pair : Date × Date} (increasing : Increasing dates)
    (member : pair ∈ pairs dates) : pair.1 < pair.2 := by
  cases dates with
  | nil => exact absurd member List.not_mem_nil
  | cons first dates => exact (mem_pairs increasing member).2

/-- What is rolled up between transitions: for each pair the records of its own time. -/
theorem rollUp_eq {transitions : List Date} (chronological : Chronological records)
    (increasing : Increasing transitions) :
    rollUp transitions records usageType subscription =
      used usageType subscription records (pairs transitions) := by
  cases transitions with
  | nil => rfl
  | cons first dates =>
    obtain ⟨last, ends⟩ : ∃ last, (first :: dates).getLast? = some last :=
      ⟨_, List.getLast?_eq_some_getLast (List.cons_ne_nil first dates)⟩
    unfold rollUp
    rw [List.head?_cons, ends]
    dsimp only
    rw [dropWhile_before chronological]
    cases kept : records.filter fun record => decide (first ≤ record.date) with
    | nil =>
      -- all records are too early
      symm
      apply used_eq_nil
      intro pair member
      apply within_eq_nil
      intro record among reached
      have early := List.filter_eq_nil_iff.1 kept record among
      rw [decide_eq_true_eq] at early
      exact absurd (Int.le_trans (mem_pairs increasing member).1 reached) early
    | cons record more =>
      dsimp only
      split
      next late =>
        -- and here the first that is not lies behind the last transition already
        symm
        apply used_eq_nil
        intro pair member
        apply within_eq_nil
        intro other among reached
        have from_first : first ≤ other.date := Int.le_trans (mem_pairs increasing member).1 reached
        have ordered : Chronological (record :: more) := kept ▸ chronological.filter _
        have listed : other ∈ record :: more :=
          kept ▸ List.mem_filter.2 ⟨among, decide_eq_true from_first⟩
        have behind : record.date ≤ other.date := by
          rcases List.mem_cons.1 listed with rfl | later
          · exact Int.le_refl _
          · exact (List.pairwise_cons.1 ordered).1 other later
        have stops := le_last increasing ends pair.2 (mem_of_pair member).2
        exact Int.le_trans stops (Int.le_trans late behind)
      next => rw [← kept, deal_eq chronological increasing]

/-! ## Sharing out -/

theorem pairs_append (front : List Date) (middle : Date) (back : List Date) :
    pairs (front ++ middle :: back) = pairs (front ++ [middle]) ++ pairs (middle :: back) := by
  induction front with
  | nil => rfl
  | cons first front ih =>
    cases front with
    | nil => rfl
    | cons second front =>
      simp only [List.cons_append, pairs_cons] at ih ⊢
      rw [ih]

theorem pairs_prefix {front dates : List Date} (begins : front <+: dates) : pairs front <+: pairs dates := by
  obtain ⟨back, rfl⟩ := begins
  rcases List.eq_nil_or_concat front with rfl | ⟨init, last, rfl⟩
  · exact List.nil_prefix
  · rw [List.concat_eq_append, List.append_assoc, List.singleton_append, pairs_append init last back]
    exact List.prefix_append _ _

theorem used_append (intervals more : List (Date × Date)) :
    used usageType subscription records (intervals ++ more) =
      used usageType subscription records intervals ++ used usageType subscription records more := by
  rw [used, List.filter_append, List.map_append, used, used]

theorem pairs_disjoint {dates : List Date} (increasing : Increasing dates) :
    (pairs dates).Pairwise fun pair other => pair.2 ≤ other.1 := by
  induction dates with
  | nil => exact List.Pairwise.nil
  | cons first dates ih =>
    cases dates with
    | nil => exact List.Pairwise.nil
    | cons second dates =>
      obtain ⟨_, rest⟩ := List.pairwise_cons.1 increasing
      rw [pairs_cons]
      exact List.pairwise_cons.2 ⟨fun pair member => (mem_pairs rest member).1, ih rest⟩

/-- A day from the first date up to the last lies between just two consecutive ones. -/
theorem countP_pairs {first last : Date} {dates : List Date} (increasing : Increasing (first :: dates))
    (ends : (first :: dates).getLast? = some last) (day : Date) :
    (pairs (first :: dates)).countP (fun pair => decide (pair.1 ≤ day ∧ day < pair.2)) =
      if first ≤ day ∧ day < last then 1 else 0 := by
  induction dates generalizing first with
  | nil =>
    cases ends
    rw [if_neg fun between => Int.not_le.2 between.2 between.1]
    rfl
  | cons second dates ih =>
    obtain ⟨beyond, rest⟩ := List.pairwise_cons.1 increasing
    rw [List.getLast?_cons_cons] at ends
    have next : first < second := beyond second List.mem_cons_self
    have until_last := le_last rest ends second List.mem_cons_self
    rw [pairs_cons, List.countP_cons, ih rest ends]
    simp only [Date.le_def, Date.lt_def, decide_eq_true_eq] at *
    split <;> split <;> split <;> omega

/-- The usage that is rolled up between dates: for each pair with records of its own time, just these. -/
structure Shares (usageType : UsageType) (records : List RawUsage) (dates : List Date)
    (usage : List RolledUsage) : Prop where
  spans : (usage.map fun rolled => (rolled.start, rolled.stop)) =
    (pairs dates).filter fun pair => !(within pair.1 pair.2 records).isEmpty
  units : ∀ rolled ∈ usage, rolled.units = units usageType (within rolled.start rolled.stop records)

theorem shares_rollUp {transitions : List Date} (chronological : Chronological records)
    (increasing : Increasing transitions) :
    Shares usageType records transitions (rollUp transitions records usageType subscription) := by
  rw [rollUp_eq chronological increasing, used]
  constructor
  · rw [List.map_map]
    exact List.map_id' _
  · exact List.forall_mem_map.2 fun _ _ => rfl

section

variable {dates : List Date} {usage : List RolledUsage}

theorem Shares.append {front back : List Date} {middle : Date} {later : List RolledUsage}
    (first : Shares usageType records (front ++ [middle]) usage)
    (second : Shares usageType records (middle :: back) later) :
    Shares usageType records (front ++ middle :: back) (usage ++ later) where
  spans := by
    rw [List.map_append, first.spans, second.spans, pairs_append front middle back, List.filter_append]
  units := List.forall_mem_append.2 ⟨first.units, second.units⟩

variable (shares : Shares usageType records dates usage)

include shares

theorem Shares.mem_pairs {rolled : RolledUsage} (member : rolled ∈ usage) :
    (rolled.start, rolled.stop) ∈ pairs dates := by
  have span : (rolled.start, rolled.stop) ∈ usage.map fun rolled => (rolled.start, rolled.stop) :=
    List.mem_map_of_mem member
  rw [shares.spans] at span
  exact (List.mem_filter.1 span).1

theorem Shares.disjoint (increasing : Increasing dates) :
    usage.Pairwise fun rolled other => rolled.stop ≤ other.start := by
  have spans := (pairs_disjoint increasing).filter fun pair => !(within pair.1 pair.2 records).isEmpty
  rw [← shares.spans, List.pairwise_map] at spans
  exact spans

theorem Shares.forward (increasing : Increasing dates) : ∀ rolled ∈ usage, rolled.start < rolled.stop :=
  fun _ member => pair_forward increasing (shares.mem_pairs member)

/-- A record lies in the time of just one rolled-up usage, if it lies in the whole time at all. -/
theorem Shares.countP {first last : Date} {rest : List Date} (starts : dates = first :: rest)
    (ends : dates.getLast? = some last) (increasing : Increasing dates) {record : RawUsage}
    (member : record ∈ records) :
    usage.countP (fun rolled => decide (rolled.start ≤ record.date ∧ record.date < rolled.stop)) =
      if first ≤ record.date ∧ record.date < last then 1 else 0 := by
  subst starts
  have spans := congrArg (List.countP fun pair : Date × Date =>
    decide (pair.1 ≤ record.date ∧ record.date < pair.2)) shares.spans
  rw [List.countP_map, List.countP_filter] at spans
  rw [← countP_pairs increasing ends record.date]
  refine Eq.trans spans (List.countP_congr fun pair _ => ?_)
  -- a pair with the record in its time has usage
  simp only [Bool.and_eq_true, decide_eq_true_eq, Bool.not_eq_true', List.isEmpty_eq_false_iff,
    and_iff_left_iff_imp]
  exact fun between => List.ne_nil_of_mem (List.mem_filter.2 ⟨member, decide_eq_true between⟩)

end

/-! ## Amounts of a unit -/

def recordedOf (unit : String) (records : List RawUsage) : Int :=
  ((records.filter fun record => record.unit = unit).map fun record => record.amount.getD 0).sum

def usedOf (unit : String) (used : List RolledUnit) : Int :=
  ((used.filter fun rolled => rolled.unit = unit).map RolledUnit.amount).sum

theorem usedOf_append (unit : String) (used more : List RolledUnit) :
    usedOf unit (used ++ more) = usedOf unit used + usedOf unit more := by
  rw [usedOf, List.filter_append, List.map_append, List.sum_append, usedOf, usedOf]

theorem usedOf_cons (unit : String) (rolled : RolledUnit) (used : List RolledUnit) :
    usedOf unit (rolled :: used) = (if rolled.unit = unit then rolled.amount else 0) + usedOf unit used := by
  by_cases same : rolled.unit = unit
  · rw [usedOf, List.filter_cons_of_pos (by simpa using same), if_pos same]
    rfl
  · rw [usedOf, List.filter_cons_of_neg (by simpa using same), if_neg same, zero_add, usedOf]

theorem recordedOf_cons (unit : String) (record : RawUsage) (records : List RawUsage) :
    recordedOf unit (record :: records) =
      (if record.unit = unit then record.amount.getD 0 else 0) + recordedOf unit records := by
  by_cases same : record.unit = unit
  · rw [recordedOf, List.filter_cons_of_pos (by simpa using same), if_pos same]
    rfl
  · rw [recordedOf, List.filter_cons_of_neg (by simpa using same), if_neg same, zero_add, recordedOf]

def unitsOf (totals : List (String × Int)) : List RolledUnit := totals.map fun total => ⟨total.1, total.2⟩

-- One more record adds its amount to the total of its unit, and to no other.
theorem usedOf_alter (unit : String) (record : RawUsage) (totals : List (String × Int)) :
    usedOf unit (unitsOf (Assoc.alter record.unit
        (fun current => updated .consumable current record.amount) totals)) =
      usedOf unit (unitsOf totals) + if record.unit = unit then record.amount.getD 0 else 0 := by
  induction totals with
  | nil =>
    rw [Assoc.alter, unitsOf, List.map_singleton, usedOf_cons]
    simp only [updated, combine, Option.getD_none, zero_add]
    exact Int.add_comm _ _
  | cons total totals ih =>
    obtain ⟨key, amount⟩ := total
    unfold Assoc.alter
    split
    next same =>
      simp only [unitsOf, List.map_cons, usedOf_cons, updated, combine, Option.getD_some, same]
      split <;> omega
    next other =>
      simp only [unitsOf, List.map_cons, usedOf_cons] at ih ⊢
      omega

theorem usedOf_units (unit : String) (records : List RawUsage) :
    usedOf unit (units .consumable records) = recordedOf unit records := by
  have running (totals : List (String × Int)) : usedOf unit (unitsOf (records.foldl (fun totals record =>
      Assoc.alter record.unit (fun current => updated .consumable current record.amount) totals) totals)) =
        usedOf unit (unitsOf totals) + recordedOf unit records := by
    induction records generalizing totals with
    | nil => exact (Int.add_zero _).symm
    | cons record records ih =>
      rw [List.foldl_cons, ih, usedOf_alter, recordedOf_cons, Int.add_assoc]
  exact (running []).trans (Int.zero_add _)

theorem recordedOf_within {first middle last : Date} (unit : String) (records : List RawUsage)
    (before : first ≤ middle) (after : middle ≤ last) :
    recordedOf unit (within first last records) =
      recordedOf unit (within first middle records) + recordedOf unit (within middle last records) := by
  induction records with
  | nil => rfl
  | cons record records ih =>
    simp only [within, List.filter_cons, decide_eq_true_eq, Date.le_def, Date.lt_def] at *
    split <;> split <;> split <;> first | omega | (simp only [recordedOf_cons]; omega)

theorem recordedOf_pairs {first last : Date} {dates : List Date} (unit : String)
    (records : List RawUsage) (increasing : Increasing (first :: dates))
    (ends : (first :: dates).getLast? = some last) :
    ((pairs (first :: dates)).map fun pair => recordedOf unit (within pair.1 pair.2 records)).sum =
      recordedOf unit (within first last records) := by
  induction dates generalizing first with
  | nil =>
    rw [List.getLast?_singleton] at ends
    cases ends
    rw [within_eq_nil fun _ _ reached => reached]
    rfl
  | cons second dates ih =>
    obtain ⟨beyond, rest⟩ := List.pairwise_cons.1 increasing
    rw [List.getLast?_cons_cons] at ends
    have next : first ≤ second := Int.le_of_lt (beyond second List.mem_cons_self)
    have until_last := le_last rest ends second List.mem_cons_self
    rw [pairs_cons, List.map_cons, List.sum_cons, ih rest ends, recordedOf_within unit records next until_last]

theorem usedOf_flatMap (unit : String) (usage : List RolledUsage) :
    usedOf unit (usage.flatMap RolledUsage.units) =
      (usage.map fun rolled => usedOf unit rolled.units).sum := by
  induction usage with
  | nil => rfl
  | cons rolled usage ih => rw [List.flatMap_cons, usedOf_append, ih, List.map_cons, List.sum_cons]

-- Times without records add nothing.
theorem sum_filter_within (unit : String) (records : List RawUsage) (intervals : List (Date × Date)) :
    ((intervals.filter fun pair => !(within pair.1 pair.2 records).isEmpty).map fun pair =>
        recordedOf unit (within pair.1 pair.2 records)).sum =
      (intervals.map fun pair => recordedOf unit (within pair.1 pair.2 records)).sum := by
  induction intervals with
  | nil => rfl
  | cons pair intervals ih =>
    rw [List.filter_cons, List.map_cons, List.sum_cons, ← ih]
    split
    next => rw [List.map_cons, List.sum_cons]
    next empty =>
      rw [Bool.not_eq_true', Bool.not_eq_false, List.isEmpty_iff] at empty
      rw [empty]
      exact (Int.zero_add _).symm

/-- All consumable usage of a unit that is rolled up is what the records of the whole time have. -/
theorem Shares.usedOf {first last : Date} {dates rest : List Date} {usage : List RolledUsage}
    (shares : Shares .consumable records dates usage) (starts : dates = first :: rest)
    (ends : dates.getLast? = some last) (increasing : Increasing dates) (unit : String) :
    Rollup.usedOf unit (usage.flatMap RolledUsage.units) = recordedOf unit (within first last records) := by
  subst starts
  have own : (usage.map fun rolled => Rollup.usedOf unit rolled.units) =
      (usage.map fun rolled => (rolled.start, rolled.stop)).map fun pair =>
        recordedOf unit (within pair.1 pair.2 records) := by
    rw [List.map_map]
    apply List.map_congr_left
    intro rolled member
    rw [shares.units rolled member, usedOf_units]
    rfl
  rw [usedOf_flatMap, own, shares.spans, sum_filter_within, recordedOf_pairs unit records increasing ends]

end Arrears.Rollup
