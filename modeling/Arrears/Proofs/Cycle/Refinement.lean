import Arrears.Proofs.Cycle.Units
import Mathlib.Data.List.Nodup

/-! Usage over finer and over coarser transitions. Where the finer ones have all of the coarser ones
among them, the usage between two of the coarser ones is what the usage between the finer ones in
their time comes to: with its units in the order in which they first occur, and its amounts combined. -/

set_option autoImplicit false

namespace Arrears.Rollup

variable {records : List RawUsage} {usageType : UsageType} {subscription : String} {start stop : Date}

/-! ## Stretches of dates -/

theorem within_append {first middle last : Date} (chronological : Chronological records)
    (before : first ≤ middle) (after : middle ≤ last) :
    within first last records = within first middle records ++ within middle last records := by
  induction records with
  | nil => rfl
  | cons record records ih =>
    obtain ⟨later, chronological⟩ := List.pairwise_cons.1 chronological
    have rest := ih chronological
    by_cases late : middle ≤ record.date
    · -- from here on no record lies before the date between
      have behind : ∀ other ∈ record :: records, middle ≤ other.date :=
        List.forall_mem_cons.2 ⟨late, fun other member => Int.le_trans late (later other member)⟩
      have none : within first middle (record :: records) = [] :=
        within_eq_nil fun other member _ => behind other member
      rw [none, List.nil_append, within, within]
      refine List.filter_congr fun other member => ?_
      have behind := behind other member
      simp only [Date.le_def, Date.lt_def, decide_eq_decide] at *
      omega
    · have not_later : ¬ (middle ≤ record.date ∧ record.date < last) := fun within => late within.1
      by_cases reached : first ≤ record.date
      · have early : record.date < middle := Int.not_le.1 late
        have inside : record.date < last := Int.lt_of_lt_of_le early after
        rw [within, within, within, List.filter_cons_of_pos (by simpa using ⟨reached, inside⟩),
          List.filter_cons_of_pos (by simpa using ⟨reached, early⟩),
          List.filter_cons_of_neg (by simpa using not_later), List.cons_append]
        exact congrArg _ rest
      · have neither {bound : Date} : ¬ (first ≤ record.date ∧ record.date < bound) :=
          fun within => reached within.1
        rw [within, within, within, List.filter_cons_of_neg (by simpa using neither),
          List.filter_cons_of_neg (by simpa using neither),
          List.filter_cons_of_neg (by simpa using not_later)]
        exact rest

/-- Records of a time are those between its first two dates, then those between the next two, and so on. -/
theorem within_pairs {first last : Date} {dates : List Date} (chronological : Chronological records)
    (increasing : Increasing (first :: dates)) (ends : (first :: dates).getLast? = some last) :
    within first last records = (pairs (first :: dates)).flatMap fun pair => within pair.1 pair.2 records := by
  induction dates generalizing first with
  | nil =>
    rw [List.getLast?_singleton] at ends
    cases ends
    exact within_eq_nil fun _ _ reached => reached
  | cons second dates ih =>
    obtain ⟨beyond, rest⟩ := List.pairwise_cons.1 increasing
    rw [List.getLast?_cons_cons] at ends
    have next : first ≤ second := Int.le_of_lt (beyond second List.mem_cons_self)
    have until_last := le_last rest ends second List.mem_cons_self
    rw [pairs_cons, List.flatMap_cons, ← ih rest ends, within_append chronological next until_last]

theorem exists_stretch {dates : List Date} (increasing : Increasing dates) (starts : start ∈ dates)
    (stops : stop ∈ dates) (forward : start < stop) :
    ∃ front middle back, dates = front ++ (start :: middle ++ stop :: back) := by
  obtain ⟨front, rest, rfl⟩ := List.append_of_mem starts
  obtain ⟨_, _, across⟩ := List.pairwise_append.1 increasing
  rcases List.mem_append.1 stops with early | later
  · have backward := across stop early start List.mem_cons_self
    exact absurd (Int.lt_trans forward backward) (Int.lt_irrefl _)
  · rcases List.mem_cons.1 later with rfl | later
    · exact absurd forward (Int.lt_irrefl _)
    · obtain ⟨middle, back, rfl⟩ := List.append_of_mem later
      exact ⟨front, middle, back, rfl⟩

theorem pairs_inside {front middle back : List Date}
    (increasing : Increasing (front ++ (start :: middle ++ stop :: back))) :
    ((pairs (front ++ (start :: middle ++ stop :: back))).filter fun pair =>
        decide (start ≤ pair.1 ∧ pair.2 ≤ stop)) = pairs (start :: middle ++ [stop]) := by
  have rest : Increasing (start :: middle ++ stop :: back) := increasing.sublist (List.sublist_append_right front _)
  have upto : Increasing (front ++ [start]) :=
    increasing.sublist (List.Sublist.append_left (List.singleton_sublist.2 List.mem_cons_self) front)
  have between : Increasing (start :: middle ++ [stop]) :=
    rest.sublist (List.Sublist.append_left (List.singleton_sublist.2 List.mem_cons_self) (start :: middle))
  have beyond : Increasing (stop :: back) := rest.sublist (List.sublist_append_right (start :: middle) _)
  have none_before : (pairs (front ++ [start])).filter
      (fun pair => decide (start ≤ pair.1 ∧ pair.2 ≤ stop)) = [] := by
    refine List.filter_eq_nil_iff.2 fun pair member => ?_
    have early := le_last upto List.getLast?_concat pair.2 (mem_of_pair member).2
    have forward := pair_forward upto member
    simp only [decide_eq_true_eq, Date.le_def, Date.lt_def] at *
    omega
  have all_between : (pairs (start :: middle ++ [stop])).filter
      (fun pair => decide (start ≤ pair.1 ∧ pair.2 ≤ stop)) = pairs (start :: middle ++ [stop]) := by
    refine List.filter_eq_self.2 fun pair member => decide_eq_true ⟨(mem_pairs between member).1, ?_⟩
    exact le_last between List.getLast?_concat pair.2 (mem_of_pair member).2
  have none_behind : (pairs (stop :: back)).filter
      (fun pair => decide (start ≤ pair.1 ∧ pair.2 ≤ stop)) = [] := by
    refine List.filter_eq_nil_iff.2 fun pair member => ?_
    have late := mem_pairs beyond member
    simp only [decide_eq_true_eq, Date.le_def, Date.lt_def] at *
    omega
  rw [List.cons_append, pairs_append front start, ← List.cons_append, pairs_append (start :: middle) stop,
    List.filter_append, List.filter_append, none_before, all_between, none_behind, List.nil_append,
    List.append_nil]

/-! ## Amounts combined -/

/-- Amounts combined one after another; nothing counts as zero. -/
def combined (usageType : UsageType) (amounts : List Int) : Int :=
  amounts.foldl (fun current amount => updated usageType (some current) (some amount)) 0

theorem combined_concat (usageType : UsageType) (amounts : List Int) (amount : Int) :
    combined usageType (amounts ++ [amount]) = combine usageType (combined usageType amounts) amount := by
  rw [combined, List.foldl_concat]
  rfl

theorem combined_consumable (amounts : List Int) : combined .consumable amounts = amounts.sum := by
  induction amounts using List.reverseRecOn with
  | nil => rfl
  | append_singleton amounts amount ih => rw [combined_concat, ih, combine, List.sum_append, List.sum_singleton]

theorem combined_capacity (amounts : List Int) : combined .capacity amounts = max 0 (amounts.max?.getD 0) := by
  induction amounts using List.reverseRecOn with
  | nil => rfl
  | append_singleton amounts amount ih => rw [combined_concat, ih, largest_concat, combine]

theorem amountOf_eq_combined (usageType : UsageType) (unit : String) (records : List RawUsage) :
    amountOf usageType unit records = combined usageType (amountsOf unit records) := by
  cases usageType with
  | consumable => rw [combined_consumable, amountOf]
  | capacity => rw [combined_capacity, amountOf]

theorem combine_combined_zero (usageType : UsageType) (amounts : List Int) :
    combine usageType (combined usageType amounts) 0 = combined usageType amounts := by
  cases usageType with
  | consumable => exact Int.add_zero _
  | capacity =>
    rw [combined_capacity, combine]
    omega

theorem combine_assoc (usageType : UsageType) (first second third : Int) :
    combine usageType (combine usageType first second) third =
      combine usageType first (combine usageType second third) := by
  cases usageType with
  | consumable => exact Int.add_assoc first second third
  | capacity => exact Int.max_assoc first second third

theorem combined_append (usageType : UsageType) (amounts more : List Int) :
    combined usageType (amounts ++ more) =
      combine usageType (combined usageType amounts) (combined usageType more) := by
  induction more using List.reverseRecOn with
  | nil => rw [List.append_nil]; exact (combine_combined_zero usageType amounts).symm
  | append_singleton more amount ih =>
    rw [← List.append_assoc, combined_concat, ih, combined_concat, combine_assoc]

/-! ## Units of parts -/

theorem eraseDups_eraseDups (names : List String) : names.eraseDups.eraseDups = names.eraseDups := by
  induction names using List.reverseRecOn with
  | nil => rfl
  | append_singleton names name ih =>
    rw [eraseDups_concat]
    by_cases seen : name ∈ names
    · rw [if_pos seen, ih]
    · rw [if_neg seen, eraseDups_concat, if_neg (mt List.mem_eraseDups.1 seen), ih]

theorem eraseDups_append_eraseDups (names more : List String) :
    (names.eraseDups ++ more.eraseDups).eraseDups = (names ++ more).eraseDups := by
  induction more using List.reverseRecOn with
  | nil => rw [List.eraseDups_nil, List.append_nil, List.append_nil, eraseDups_eraseDups]
  | append_singleton more name ih =>
    rw [← List.append_assoc, eraseDups_concat, eraseDups_concat]
    by_cases seen : name ∈ more
    · rw [if_pos seen, if_pos (List.mem_append_right names seen), ih]
    · rw [if_neg seen, ← List.append_assoc, eraseDups_concat, ih]
      simp only [List.mem_append, List.mem_eraseDups]

theorem unitNames_flatten (parts : List (List RawUsage)) :
    unitNames parts.flatten = (parts.flatMap unitNames).eraseDups := by
  induction parts with
  | nil => rfl
  | cons part parts ih =>
    rw [List.flatten_cons, List.flatMap_cons, unitNames, List.map_append, ← eraseDups_append_eraseDups,
      ← unitNames, ← unitNames, ih]
    have known : (unitNames part).eraseDups = unitNames part := eraseDups_eraseDups _
    rw [← eraseDups_append_eraseDups (unitNames part) (parts.flatMap unitNames), known]

theorem names_units (usageType : UsageType) (records : List RawUsage) :
    (units usageType records).map RolledUnit.unit = unitNames records := by
  rw [units_eq, List.map_map]
  exact List.map_id' _

def amountsIn (unit : String) (used : List RolledUnit) : List Int :=
  (used.filter fun rolled => rolled.unit = unit).map RolledUnit.amount

theorem amountsIn_append (unit : String) (used more : List RolledUnit) :
    amountsIn unit (used ++ more) = amountsIn unit used ++ amountsIn unit more := by
  rw [amountsIn, List.filter_append, List.map_append, amountsIn, amountsIn]

theorem amountsOf_append (unit : String) (records more : List RawUsage) :
    amountsOf unit (records ++ more) = amountsOf unit records ++ amountsOf unit more := by
  rw [amountsOf, List.filter_append, List.map_append, amountsOf, amountsOf]

theorem combined_amountsIn_units (usageType : UsageType) (unit : String) (records : List RawUsage) :
    combined usageType (amountsIn unit (units usageType records)) = amountOf usageType unit records := by
  have nodup : (unitNames records).Nodup := keys_amounts usageType records ▸ nodup_keys_amounts usageType records
  have single : amountsIn unit (units usageType records) =
      List.replicate ((unitNames records).count unit) (amountOf usageType unit records) := by
    rw [units_eq, amountsIn, List.filter_map, List.map_map]
    simp only [Function.comp_def, List.filter_eq, List.map_replicate]
  rw [single]
  by_cases seen : unit ∈ unitNames records
  · rw [List.count_eq_one_of_mem nodup seen, List.replicate_one, amountOf_eq_combined]
    exact (combined_append usageType [] (amountsOf unit records)).symm
  · have none : amountsOf unit records = [] := by
      refine List.map_eq_nil_iff.2 (List.filter_eq_nil_iff.2 fun record member => ?_)
      rw [decide_eq_true_eq]
      rintro rfl
      exact seen (List.mem_eraseDups.2 (List.mem_map_of_mem member))
    rw [List.count_eq_zero_of_not_mem seen, List.replicate_zero, amountOf_eq_combined, none]

theorem amountOf_flatten (usageType : UsageType) (unit : String) (parts : List (List RawUsage)) :
    amountOf usageType unit parts.flatten =
      combined usageType (amountsIn unit (parts.flatMap (units usageType))) := by
  induction parts with
  | nil => exact amountOf_eq_combined usageType unit []
  | cons part parts ih =>
    rw [List.flatten_cons, amountOf_eq_combined, amountsOf_append, combined_append, List.flatMap_cons,
      amountsIn_append, combined_append, combined_amountsIn_units, ← ih, amountOf_eq_combined,
      amountOf_eq_combined]

/-! ## Coarser and finer transitions -/

/-- Usage of some time is what its parts come to: it has their units, each where it first occurs in
them, with the amounts of the parts combined, which is their sum or, for capacity, the largest. -/
structure Merges (usageType : UsageType) (whole : List RolledUnit) (parts : List RolledUsage) : Prop where
  units : whole.map RolledUnit.unit = ((parts.flatMap RolledUsage.units).map RolledUnit.unit).eraseDups
  combined : ∀ used ∈ whole,
    used.amount = combined usageType (amountsIn used.unit (parts.flatMap RolledUsage.units))
  consumable : usageType = .consumable → ∀ used ∈ whole,
    used.amount = (amountsIn used.unit (parts.flatMap RolledUsage.units)).sum
  capacity : usageType = .capacity → ∀ used ∈ whole,
    (amountsIn used.unit (parts.flatMap RolledUsage.units)).max? = some used.amount

theorem nonneg_capacity (records : List RawUsage) : ∀ used ∈ units .capacity records, 0 ≤ used.amount := by
  rw [units_eq, List.forall_mem_map]
  exact fun unit _ => Int.le_max_left 0 _

-- Times without records have no units.
theorem flatMap_used (intervals : List (Date × Date)) :
    (used usageType subscription records intervals).flatMap RolledUsage.units =
      intervals.flatMap fun pair => units usageType (within pair.1 pair.2 records) := by
  induction intervals with
  | nil => rfl
  | cons pair intervals ih =>
    rw [used_cons, List.flatMap_cons, ← ih]
    by_cases empty : within pair.1 pair.2 records = []
    · rw [if_pos empty, empty]
      rfl
    · rw [if_neg empty, List.flatMap_cons]

/-- What the records of parts come to together is what the parts come to. -/
theorem merges_flatten {groups : List (List RawUsage)} {parts : List RolledUsage}
    (told : parts.flatMap RolledUsage.units = groups.flatMap (units usageType)) :
    Merges usageType (units usageType groups.flatten) parts := by
  have names : (units usageType groups.flatten).map RolledUnit.unit =
      ((parts.flatMap RolledUsage.units).map RolledUnit.unit).eraseDups := by
    rw [names_units, unitNames_flatten, told, List.map_flatMap]
    simp only [names_units]
  have amounts : ∀ used ∈ units usageType groups.flatten,
      used.amount = combined usageType (amountsIn used.unit (parts.flatMap RolledUsage.units)) := by
    rw [units_eq, List.forall_mem_map, told]
    exact fun unit _ => amountOf_flatten usageType unit groups
  refine ⟨names, amounts, ?_, ?_⟩
  · rintro rfl used member
    rw [amounts used member, combined_consumable]
  · rintro rfl used member
    have listed : used.unit ∈ (parts.flatMap RolledUsage.units).map RolledUnit.unit :=
      List.mem_eraseDups.1 (names ▸ List.mem_map_of_mem member)
    have some_amount : amountsIn used.unit (parts.flatMap RolledUsage.units) ≠ [] := by
      obtain ⟨rolled, among, same⟩ := List.mem_map.1 listed
      exact List.ne_nil_of_mem (List.mem_map_of_mem (List.mem_filter.2 ⟨among, decide_eq_true same⟩))
    obtain ⟨largest, found⟩ := Option.isSome_iff_exists.1 (List.isSome_max?_of_ne_nil some_amount)
    have nonneg : 0 ≤ largest := by
      rw [told] at found
      obtain ⟨rolled, among, rfl⟩ := List.mem_map.1 (List.max?_mem found)
      obtain ⟨group, _, inside⟩ := List.mem_flatMap.1 (List.mem_filter.1 among).1
      exact nonneg_capacity group rolled inside
    rw [found, amounts used member, combined_capacity, found, Option.getD_some, Int.max_eq_right nonneg]

/-- What is rolled up in a stretch of the transitions is what the pairs of the stretch have. -/
theorem filter_rollUp {front middle back : List Date} (usageType : UsageType) (subscription : String)
    (chronological : Chronological records)
    (increasing : Increasing (front ++ (start :: middle ++ stop :: back))) :
    ((rollUp (front ++ (start :: middle ++ stop :: back)) records usageType subscription).filter
      fun part => decide (start ≤ part.start ∧ part.stop ≤ stop)) =
        used usageType subscription records (pairs (start :: middle ++ [stop])) := by
  rw [rollUp_eq chronological increasing, ← pairs_inside increasing, used, used, List.filter_map,
    List.filter_filter, List.filter_filter]
  simp only [Function.comp_def, Bool.and_comm]

/-- Over coarser transitions usage comes to the same. Between two of the coarser ones there is usage
just if there is some between finer ones in their time, and it is what these parts come to. -/
theorem rollUp_coarsened {coarse fine : List Date} (chronological : Chronological records)
    (increasing : Increasing coarse) (increasing_fine : Increasing fine)
    (refined : ∀ date ∈ coarse, date ∈ fine) (pair : (start, stop) ∈ pairs coarse) :
    ((∃ whole ∈ rollUp coarse records usageType subscription, whole.start = start ∧ whole.stop = stop) ↔
        ∃ part ∈ rollUp fine records usageType subscription, start ≤ part.start ∧ part.stop ≤ stop) ∧
      ∀ whole ∈ rollUp coarse records usageType subscription, whole.start = start → whole.stop = stop →
        Merges usageType whole.units ((rollUp fine records usageType subscription).filter fun part =>
          decide (start ≤ part.start ∧ part.stop ≤ stop)) := by
  obtain ⟨starts, stops⟩ := mem_of_pair pair
  obtain ⟨front, middle, back, rfl⟩ :=
    exists_stretch increasing_fine (refined start starts) (refined stop stops) (pair_forward increasing pair)
  have between : Increasing (start :: middle ++ [stop]) :=
    increasing_fine.sublist ((List.Sublist.append_left
      (List.singleton_sublist.2 List.mem_cons_self) _).trans (List.sublist_append_right front _))
  have ends : (start :: middle ++ [stop]).getLast? = some stop := List.getLast?_concat
  have split : within start stop records =
      (pairs (start :: middle ++ [stop])).flatMap fun pair => within pair.1 pair.2 records :=
    within_pairs chronological between ends
  have parts := filter_rollUp usageType subscription chronological increasing_fine
  have recorded : within start stop records ≠ [] ↔
      ∃ own ∈ pairs (start :: middle ++ [stop]), within own.1 own.2 records ≠ [] := by
    rw [split, ne_eq, List.flatMap_eq_nil_iff, not_forall₂]
    simp only [exists_prop]
  constructor
  · rw [rollUp_eq chronological increasing]
    constructor
    · rintro ⟨whole, member, rfl, rfl⟩
      obtain ⟨_, _, some_record, rfl⟩ := mem_used.1 member
      obtain ⟨own, inside, some_record⟩ := recorded.1 some_record
      have among := parts ▸ mem_used.2 ⟨own, inside, some_record, rfl⟩
      obtain ⟨listed, place⟩ := List.mem_filter.1 among
      exact ⟨_, listed, of_decide_eq_true place⟩
    · rintro ⟨part, listed, place⟩
      have among := parts ▸ List.mem_filter.2 ⟨listed, decide_eq_true place⟩
      obtain ⟨own, inside, some_record, rfl⟩ := mem_used.1 among
      exact ⟨_, mem_used.2 ⟨(start, stop), pair, recorded.2 ⟨own, inside, some_record⟩, rfl⟩, rfl, rfl⟩
  · rintro whole member rfl rfl
    rw [(shares_rollUp chronological increasing).units whole member, parts, split, List.flatMap_def]
    refine merges_flatten ?_
    rw [flatMap_used, List.flatMap_map]

def twoMonths : List Date := monthStarts.eraseIdx 1

def resumed : List RawUsage :=
  [⟨⟨738530, by decide, by decide⟩, "texts", some (-4)⟩,
    ⟨⟨738531, by decide, by decide⟩, "minutes", some 25⟩,
    ⟨⟨738560, by decide, by decide⟩, "data", some 7⟩,
    ⟨⟨738561, by decide, by decide⟩, "minutes", some 30⟩,
    ⟨⟨738562, by decide, by decide⟩, "texts", none⟩]

theorem twoMonths_coarsened :
    Chronological resumed ∧ Increasing twoMonths ∧ Increasing monthStarts ∧
      (∀ date ∈ twoMonths, date ∈ monthStarts) ∧
      (rollUp twoMonths resumed .capacity "sub-1").map RolledUsage.units =
        [[⟨"texts", 0⟩, ⟨"minutes", 30⟩, ⟨"data", 7⟩]] ∧
      (rollUp monthStarts resumed .capacity "sub-1").map RolledUsage.units =
        [[⟨"texts", 0⟩, ⟨"minutes", 25⟩], [⟨"data", 7⟩, ⟨"minutes", 30⟩, ⟨"texts", 0⟩]] ∧
      ∀ whole ∈ rollUp twoMonths resumed .capacity "sub-1",
        whole.start = monthStarts[0] → whole.stop = monthStarts[2] →
          Merges .capacity whole.units ((rollUp monthStarts resumed .capacity "sub-1").filter fun part =>
            decide (monthStarts[0] ≤ part.start ∧ part.stop ≤ monthStarts[2])) := by
  have chronological : Chronological resumed := by
    simp only [Chronological, resumed]
    decide
  have coarse : Increasing twoMonths := by
    simp only [Increasing, twoMonths, monthStarts]
    decide
  have fine : Increasing monthStarts := by
    simp only [Increasing, monthStarts]
    decide
  have refined : ∀ date ∈ twoMonths, date ∈ monthStarts := fun date member => List.mem_of_mem_eraseIdx member
  have pair : (monthStarts[0], monthStarts[2]) ∈ pairs twoMonths := List.mem_singleton.2 rfl
  exact ⟨chronological, coarse, fine, refined, by rfl, by rfl,
    (rollUp_coarsened chronological coarse fine refined pair).2⟩

end Arrears.Rollup
