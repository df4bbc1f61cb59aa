import Arrears.Proofs.Interval.Outcome
import Arrears.Proofs.Reconciliation.Order

/-! Billing beside the same items in another order. Without rounding, what earlier items cover, what
is deducted for them and whether their lines can be written do not depend on their order. So the
same times are billed with the same totals, or both runs fail. -/

set_option autoImplicit false

namespace Arrears

namespace Decimal

theorem size_perm {amounts reordered : List Decimal} (perm : amounts.Perm reordered) :
    size amounts = size reordered :=
  (perm.map _).sum_eq

theorem Exact.perm {amounts reordered : List Decimal} (exact : Exact amounts)
    (perm : amounts.Perm reordered) : Exact reordered := by
  obtain ⟨places, few, placed, room⟩ := exact
  exact ⟨places, few, fun amount member => placed amount (perm.mem_iff.2 member), size_perm perm ▸ room⟩

end Decimal

def Draft.charge (draft : Draft) : Date × Option Date × ℚ := (draft.start, draft.stop, draft.amount.value)

/-- Drafts that bill the same: the same total, and the same amount if there is one item for it. -/
structure SameBill (mode : DetailMode) (drafts others : List Draft) : Prop where
  some_draft : drafts = [] ↔ others = []
  total : Decimal.total (drafts.map Draft.amount) = Decimal.total (others.map Draft.amount)
  single : mode = .aggregate → drafts.map Draft.charge = others.map Draft.charge

theorem SameBill.rfl {mode : DetailMode} {drafts : List Draft} : SameBill mode drafts drafts :=
  ⟨.rfl, Eq.refl _, fun _ => Eq.refl _⟩

namespace UsageInterval

variable {interval : UsageInterval} {event : BillingEvent} {existing other : List Item} {date : Date}
  {start stop : Date} {places : Nat} {rolled : RolledUsage} {candidates lines others : List Line}
  {drafts more : List Draft} {amount amount' : Decimal} {left : ℚ}

/-! ## One pair of transitions -/

theorem billedBefore_perm (interval : UsageInterval) (rolled : RolledUsage) (perm : existing.Perm other) :
    (interval.billedBefore existing rolled).Perm (interval.billedBefore other rolled) :=
  perm.filter _

theorem covered_perm (perm : existing.Perm other) :
    Covered interval existing rolled candidates ↔ Covered interval other rolled candidates := by
  have before := billedBefore_perm interval rolled perm
  rw [Covered, Covered, Reconciliation.totalBilled_perm before, Ne, Ne, ← List.length_eq_zero_iff,
    ← List.length_eq_zero_iff, before.length_eq]

theorem rest_perm (perm : existing.Perm other) :
    interval.rest existing rolled candidates = interval.rest other rolled candidates := by
  rw [rest, rest, Reconciliation.totalDeducted_perm _ (billedBefore_perm interval rolled perm)]

theorem allReadable_perm (perm : existing.Perm other) :
    AllReadable interval existing rolled ↔ AllReadable interval other rolled :=
  forall_congr' fun _ => imp_congr_left (billedBefore_perm interval rolled perm).mem_iff

theorem ne_nil_of_total_pos (positive : 0 < Decimal.total (drafts.map Draft.amount)) : drafts ≠ [] := by
  rintro rfl
  exact absurd positive (lt_irrefl 0)

theorem sameBill_of_total {mode : DetailMode} (positive : 0 < left)
    (total : Decimal.total (drafts.map Draft.amount) = left)
    (total' : Decimal.total (more.map Draft.amount) = left)
    (single : mode = .aggregate → drafts.map Draft.charge = more.map Draft.charge) :
    SameBill mode drafts more where
  some_draft :=
    iff_of_false (ne_nil_of_total_pos (total ▸ positive)) (ne_nil_of_total_pos (total' ▸ positive))
  total := total.trans total'.symm
  single := single

theorem itemsFor_sameBill (same : (lines.map Line.carried).Perm (others.map Line.carried))
    (positive : 0 < left)
    (total : Decimal.total (lines.map Line.amount) = left) (value : amount.value = left)
    (total' : Decimal.total (others.map Line.amount) = left) (value' : amount'.value = left)
    (made : interval.itemsFor event start stop amount lines = .ok drafts) :
    ∃ more, interval.itemsFor event start stop amount' others = .ok more ∧
      SameBill (interval.settings.modeFor interval.tenant) drafts more := by
  unfold itemsFor at made ⊢
  split at made
  next detail =>
    cases made
    refine ⟨_, rfl, sameBill_of_total positive ?_ ?_ fun aggregate => nomatch detail.symm.trans aggregate⟩
    · rw [List.map_map]
      exact total
    · rw [List.map_map]
      exact total'
  next =>
    obtain ⟨blob, written, single⟩ := bind_eq_ok.1 made
    cases single
    obtain ⟨blob', written'⟩ := Line.writeBlob_of_perm same written
    have alone (amount : Decimal) : Decimal.total [amount] = amount.value := add_zero _
    refine ⟨_, bind_eq_ok.2 ⟨blob', written', rfl⟩, sameBill_of_total positive ?_ ?_ fun _ => ?_⟩
    · exact (alone amount).trans value
    · exact (alone amount').trans value'
    · exact congrArg (fun value => [(start, some stop, value)]) (value.trans value'.symm)

theorem billRolled_perm (few : places ≤ 20)
    (charged : Charged places interval existing rolled candidates)
    (charged' : Charged places interval other rolled candidates) (perm : existing.Perm other)
    (success : interval.billRolled event existing rolled = .ok drafts) :
    ∃ more, interval.billRolled event other rolled = .ok more ∧
      SameBill (interval.settings.modeFor interval.tenant) drafts more := by
  cases (billRolled_iff few charged).1 success with
  | settled none_left =>
    rw [covered_perm perm, allReadable_perm perm, rest_perm perm] at none_left
    exact ⟨[], (billRolled_iff few charged').2 (.settled none_left), .rfl⟩
  | billed needed readable left netted summed made =>
    obtain ⟨_, _, netted_one, summed_one, _, value, total, _⟩ := net_lines few charged readable
    cases Except.ok.inj (netted_one.symm.trans netted)
    cases Except.ok.inj (summed_one.symm.trans summed)
    rw [covered_perm perm] at needed
    rw [allReadable_perm perm] at readable
    rw [rest_perm perm] at left value total
    obtain ⟨_, _, netted', summed', _, value', total', _⟩ := net_lines few charged' readable
    have same := Reconciliation.carried_perm (billedBefore_perm interval rolled perm) netted netted'
    obtain ⟨more, made', bill⟩ := itemsFor_sameBill same left total value total' value' made
    exact ⟨more, (billRolled_iff few charged').2 (.billed needed readable left netted' summed' made'), bill⟩

/-! ## A whole run -/

theorem stakes_perm (interval : UsageInterval) (perm : existing.Perm other) :
    (interval.stakes existing).Perm (interval.stakes other) :=
  (Reconciliation.stakes_perm perm).append_left _

theorem sameBill_filter {usage : List RolledUsage} {one more : RolledUsage → List Draft}
    {usageName : String} {mode : DetailMode} (ordered : usage.Pairwise fun one other => one.start < other.start)
    (spans : ∀ rolled ∈ usage, ∀ draft ∈ one rolled, draft.Spans usageName rolled.start rolled.stop)
    (spans' : ∀ rolled ∈ usage, ∀ draft ∈ more rolled, draft.Spans usageName rolled.start rolled.stop)
    (same : ∀ rolled ∈ usage, SameBill mode (one rolled) (more rolled)) (start stop : Date) :
    SameBill mode ((usage.flatMap one).filter (Draft.isFor start stop))
      ((usage.flatMap more).filter (Draft.isFor start stop)) := by
  rw [filter_flatMap ordered spans, filter_flatMap ordered spans']
  cases found : usage.find? fun rolled => decide (rolled.start = start ∧ rolled.stop = stop) with
  | none => exact .rfl
  | some rolled => exact same rolled (List.mem_of_find?_eq_some found)

theorem bill_perm (increasing : Increasing interval.transitions)
    (exact : Decimal.Exact (interval.stakes existing)) (perm : existing.Perm other)
    (success : (interval.bill existing).next = .ok date) :
    (interval.bill other).next = .ok date ∧
      ∃ event billed billed', interval.firstEvent = .ok event ∧
        (interval.bill existing).drafts = interval.markers event ++ billed ∧
        (interval.bill other).drafts = interval.markers event ++ billed' ∧
        ∀ start stop, SameBill (interval.settings.modeFor interval.tenant)
          (billed.filter (Draft.isFor start stop)) (billed'.filter (Draft.isFor start stop)) := by
  obtain ⟨event, bills⟩ := bills_of_success success
  obtain ⟨places, few, placed, room⟩ := exact
  have staked := stakes_perm interval perm
  have placed' := fun amount member => placed amount (staked.mem_iff.2 member)
  have room' := Decimal.size_perm staked ▸ room
  have both (rolled : RolledUsage) (member : rolled ∈ interval.usageRolledUp) :
      ∃ more, interval.billRolled event other rolled = .ok more ∧
        SameBill (interval.settings.modeFor interval.tenant)
          (interval.rolledDrafts event existing rolled) more := by
    have priced := priced_of_success (bills.each rolled member)
    have charged := charged_of few placed room member priced
    have charged' := charged_of few placed' room' member priced
    exact billRolled_perm few charged charged' perm (bills.each rolled member)
  have each : ∀ rolled ∈ interval.usageRolledUp, interval.billRolled event other rolled =
      .ok (interval.rolledDrafts event other rolled) := by
    intro rolled member
    obtain ⟨more, made, _⟩ := both rolled member
    rw [rolledDrafts, made]
  have same : ∀ rolled ∈ interval.usageRolledUp, SameBill (interval.settings.modeFor interval.tenant)
      (interval.rolledDrafts event existing rolled) (interval.rolledDrafts event other rolled) := by
    intro rolled member
    obtain ⟨more, made, same⟩ := both rolled member
    rwa [Except.ok.inj ((each rolled member).symm.trans made)]
  obtain ⟨next, drafts⟩ := bill_of_each bills.ready each
  refine ⟨next, event, _, _, bills.ready.begins, bills.drafts, drafts, ?_⟩
  exact sameBill_filter (increasing_starts increasing) bills.spans_rolled
    (fun rolled member => spans_billRolled (each rolled member)) same

/-- The order of the earlier items does not matter. If no amount has to be rounded, a run beside items
succeeds just when it does beside the same items in another order, with the same date to come back;
and then both bill the same times, each with the same total and, where there is one item for it,
with the same amount. -/
theorem bill_in_any_order {fresh : UsageInterval} {closed : Bool}
    (built : fresh.build closed = .ok interval) (exact : Decimal.Exact (interval.stakes existing))
    (perm : existing.Perm other) :
    (∀ date, (interval.bill existing).next = .ok date ↔ (interval.bill other).next = .ok date) ∧
      ∀ date, (interval.bill existing).next = .ok date →
        ∃ event billed billed', interval.firstEvent = .ok event ∧
          (interval.bill existing).drafts = interval.markers event ++ billed ∧
          (interval.bill other).drafts = interval.markers event ++ billed' ∧
          ∀ start stop, SameBill (interval.settings.modeFor interval.tenant)
            (billed.filter (Draft.isFor start stop)) (billed'.filter (Draft.isFor start stop)) := by
  have increasing := increasing_of_build built
  have exact' := exact.perm (stakes_perm interval perm)
  refine ⟨fun date => ⟨?_, ?_⟩, fun date success => ?_⟩
  · exact fun success => (bill_perm increasing exact perm success).1
  · exact fun success => (bill_perm increasing exact' perm.symm success).1
  · exact (bill_perm increasing exact perm success).2

end UsageInterval

namespace Calls

theorem paid_in_any_order :
    ((interval.bill [paid 1, paid 2]).next = .ok march ↔ (interval.bill [paid 2, paid 1]).next = .ok march) ∧
      ∃ event billed billed', interval.firstEvent = .ok event ∧
        (interval.bill [paid 1, paid 2]).drafts = interval.markers event ++ billed ∧
        (interval.bill [paid 2, paid 1]).drafts = interval.markers event ++ billed' ∧
        ∀ start stop, SameBill .aggregate (billed.filter (Draft.isFor start stop))
          (billed'.filter (Draft.isFor start stop)) := by
  have whole : interval.stakes [paid 1, paid 2] = [2, 2, 1, 2].map Decimal.ofInt := by rfl
  have exact : Decimal.Exact (interval.stakes [paid 1, paid 2]) :=
    whole ▸ Decimal.exact_ofInt (by decide)
  have success : (interval.bill [paid 1, paid 2]).next = .ok march := by rfl
  obtain ⟨both, bills⟩ := UsageInterval.bill_in_any_order build_collecting exact
    (List.Perm.swap (paid 2) (paid 1) [])
  exact ⟨both march, bills march success⟩

end Calls

end Arrears
