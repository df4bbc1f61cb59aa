import Arrears.Proofs.Cycle.Usage
import Mathlib.Data.List.Induction

/-! What the records of one time come to. Their units stand in the order in which they first occur,
each once, with the sum of its amounts or, for capacity, the largest of them. So what is rolled up
between transitions is told pair by pair, and records before the first transition or from the last
one on add nothing to it. -/

set_option autoImplicit false

namespace Arrears

namespace Rollup

variable {records : List RawUsage} {usageType : UsageType} {subscription : String} {unit : String}

/-! ## Units in the order of their first records -/

theorem eraseDups_concat (names : List String) (name : String) :
    (names ++ [name]).eraseDups = if name ∈ names then names.eraseDups else names.eraseDups ++ [name] := by
  rw [List.eraseDups_append]
  by_cases seen : name ∈ names <;> simp [List.cons_removeAll, seen, List.eraseDups_cons]

theorem eraseDups_filter (names : List String) (keep : String → Bool) :
    (names.filter keep).eraseDups = names.eraseDups.filter keep := by
  induction names using List.reverseRecOn with
  | nil => rfl
  | append_singleton names name ih =>
    by_cases kept : keep name = true
    · rw [List.filter_append, List.filter_singleton, kept, cond_true, eraseDups_concat, eraseDups_concat, ih]
      by_cases seen : name ∈ names <;> simp [seen, kept]
    · simp only [Bool.not_eq_true] at kept
      rw [List.filter_append, List.filter_singleton, kept, cond_false, List.append_nil, eraseDups_concat, ih]
      by_cases seen : name ∈ names <;> simp [seen, kept]

def unitNames (records : List RawUsage) : List String := (records.map RawUsage.unit).eraseDups

def amountsOf (unit : String) (records : List RawUsage) : List Int :=
  (records.filter fun record => record.unit = unit).map fun record => record.amount.getD 0

/-- What records come to for a unit: the sum of its amounts, or the largest of them and zero. -/
def amountOf (usageType : UsageType) (unit : String) (records : List RawUsage) : Int :=
  match usageType with
  | .consumable => (amountsOf unit records).sum
  | .capacity => max 0 ((amountsOf unit records).max?.getD 0)

theorem amountsOf_concat (unit : String) (records : List RawUsage) (record : RawUsage) :
    amountsOf unit (records ++ [record]) =
      amountsOf unit records ++ if record.unit = unit then [record.amount.getD 0] else [] := by
  by_cases same : record.unit = unit <;> simp [amountsOf, List.filter_append, same]

theorem largest_concat (amounts : List Int) (amount : Int) :
    max 0 ((amounts ++ [amount]).max?.getD 0) = max (max 0 (amounts.max?.getD 0)) amount := by
  cases amounts with
  | nil => simp
  | cons first others =>
    rw [List.cons_append, List.max?_cons', List.max?_cons', List.foldl_concat]
    simp only [Option.getD_some]
    omega

theorem amountOf_concat (usageType : UsageType) (unit : String) (records : List RawUsage)
    (record : RawUsage) :
    amountOf usageType unit (records ++ [record]) =
      if record.unit = unit then
        combine usageType (amountOf usageType unit records) (record.amount.getD 0)
      else amountOf usageType unit records := by
  by_cases same : record.unit = unit <;>
    cases usageType <;> simp [amountOf, amountsOf_concat, same, combine, largest_concat]

theorem amounts_concat (usageType : UsageType) (records : List RawUsage) (record : RawUsage) :
    amounts usageType (records ++ [record]) =
      Assoc.alter record.unit (fun current => updated usageType current record.amount)
        (amounts usageType records) :=
  List.foldl_concat ..

theorem keys_amounts (usageType : UsageType) (records : List RawUsage) :
    Assoc.keys (amounts usageType records) = unitNames records := by
  induction records using List.reverseRecOn with
  | nil => rfl
  | append_singleton records record ih =>
    rw [amounts_concat, Assoc.keys_alter, ih, unitNames, unitNames, List.map_append, List.map_singleton,
      eraseDups_concat]
    simp

theorem nodup_keys_amounts (usageType : UsageType) (records : List RawUsage) :
    (Assoc.keys (amounts usageType records)).Nodup := by
  induction records using List.reverseRecOn with
  | nil => exact List.nodup_nil
  | append_singleton records record ih =>
    rw [amounts_concat]
    exact Assoc.nodup_keys_alter ih _ _

theorem getD_amounts (usageType : UsageType) (records : List RawUsage) (unit : String) :
    (Assoc.get? unit (amounts usageType records)).getD 0 = amountOf usageType unit records := by
  induction records using List.reverseRecOn with
  | nil => cases usageType <;> rfl
  | append_singleton records record ih =>
    rw [amounts_concat, Assoc.get?_alter, amountOf_concat]
    by_cases same : record.unit = unit
    · subst same
      simp [updated, ih]
    · simp [same, Ne.symm same, ih]

theorem units_eq (usageType : UsageType) (records : List RawUsage) :
    units usageType records =
      (unitNames records).map fun unit => ⟨unit, amountOf usageType unit records⟩ := by
  rw [units, Assoc.eq_map_keys (nodup_keys_amounts usageType records) 0, List.map_map, keys_amounts]
  simp [Function.comp_def, getD_amounts]

/-! ## Between transitions -/

theorem within_within {first last start stop : Date} (records : List RawUsage) (behind : first ≤ start)
    (before : stop ≤ last) : within start stop (within first last records) = within start stop records := by
  rw [within, within, List.filter_filter, within]
  apply List.filter_congr
  intro record _
  simp only [Date.le_def, Date.lt_def, ← Bool.decide_and, decide_eq_decide] at *
  omega

theorem rollUp_congr {transitions : List Date} {others : List RawUsage}
    (chronological : Chronological records) (chronological_others : Chronological others)
    (increasing : Increasing transitions)
    (same : ∀ pair ∈ pairs transitions, within pair.1 pair.2 others = within pair.1 pair.2 records) :
    rollUp transitions others usageType subscription = rollUp transitions records usageType subscription := by
  rw [rollUp_eq chronological increasing, rollUp_eq chronological_others increasing, used, used]
  have kept : ((pairs transitions).filter fun pair => !(within pair.1 pair.2 others).isEmpty) =
      (pairs transitions).filter fun pair => !(within pair.1 pair.2 records).isEmpty :=
    List.filter_congr fun pair member => by rw [same pair member]
  rw [kept]
  apply List.map_congr_left
  intro pair member
  rw [same pair (List.mem_filter.1 member).1]

/-- Usage is rolled up for just the pairs of transitions that have records in their time, with the
units of these records, each once, and what they come to. Records before the first transition or
from the last one on do not matter. -/
theorem rollUp_by_unit {transitions : List Date} (chronological : Chronological records)
    (increasing : Increasing transitions) :
    rollUp transitions records usageType subscription =
        (((pairs transitions).filter fun pair => !(within pair.1 pair.2 records).isEmpty).map fun pair =>
          ⟨subscription, pair.1, pair.2, (unitNames (within pair.1 pair.2 records)).map fun unit =>
            ⟨unit, amountOf usageType unit (within pair.1 pair.2 records)⟩⟩) ∧
      ∀ first last, transitions.head? = some first → transitions.getLast? = some last →
        rollUp transitions (within first last records) usageType subscription =
          rollUp transitions records usageType subscription := by
  constructor
  · rw [rollUp_eq chronological increasing, used]
    simp only [units_eq]
  · intro first last starts ends
    refine rollUp_congr chronological (chronological.filter _) increasing fun pair member => ?_
    refine within_within records ?_ (le_last increasing ends pair.2 (mem_of_pair member).2)
    obtain ⟨dates, rfl⟩ := List.head?_eq_some_iff.1 starts
    exact (mem_pairs increasing member).1

def monthStarts : List Date :=
  [⟨738521, by decide, by decide⟩, ⟨738552, by decide, by decide⟩, ⟨738580, by decide, by decide⟩]

def logged : List RawUsage :=
  [⟨⟨738520, by decide, by decide⟩, "minutes", some 40⟩,
    ⟨⟨738521, by decide, by decide⟩, "minutes", some 25⟩,
    ⟨⟨738521, by decide, by decide⟩, "texts", none⟩,
    ⟨⟨738535, by decide, by decide⟩, "minutes", some 30⟩,
    ⟨⟨738580, by decide, by decide⟩, "texts", some 50⟩]

theorem rollUp_logged :
    Chronological logged ∧ Increasing monthStarts ∧
      (rollUp monthStarts logged .consumable "sub-1").map RolledUsage.units =
        [[⟨"minutes", 55⟩, ⟨"texts", 0⟩]] ∧
      (rollUp monthStarts logged .capacity "sub-1").map RolledUsage.units =
        [[⟨"minutes", 30⟩, ⟨"texts", 0⟩]] := by
  have chronological : Chronological logged := by
    simp only [Chronological, logged]
    decide
  have increasing : Increasing monthStarts := by
    simp only [Increasing, monthStarts]
    decide
  refine ⟨chronological, increasing, ?_, ?_⟩
  · rw [(rollUp_by_unit chronological increasing).1]
    rfl
  · rw [(rollUp_by_unit chronological increasing).1]
    rfl

end Rollup

end Arrears
