import Arrears.Proofs.Interval.Outcome

/-! Running twice. What a run issued for a pair of transitions is deducted at least at its amount
when the run is repeated, in whichever mode. So the repetition finds nothing left to bill, and gives
the markers alone. -/

set_option autoImplicit false

namespace Arrears.UsageInterval

variable {interval : UsageInterval} {event : BillingEvent} {existing out : List Item} {date : Date}
  {places : Nat} {rolled : RolledUsage}

theorem billedBefore_append (interval : UsageInterval) (existing out : List Item)
    (rolled : RolledUsage) :
    interval.billedBefore (existing ++ out) rolled =
      interval.billedBefore existing rolled ++ interval.billedBefore out rolled :=
  List.filter_append _ _

section

variable (run : ExactRun places interval existing) (bills : Bills interval event existing date)
  (issued : Issued (interval.bill existing).drafts out) (member : rolled ∈ interval.usageRolledUp)

include run bills issued

theorem issued_readable : interval.AllReadable out rolled := by
  intro item among
  obtain ⟨⟨_, _, _, fits⟩, _⟩ := run.issuedFor bills issued item (List.mem_filter.1 among).1
  exact fits.readable

include member

theorem issued_drafts : (interval.billedBefore out rolled).map Item.toDraft =
    interval.draft event rolled.start rolled.stop .zero none .null .null ::
      interval.rolledDrafts event existing rolled :=
  bills.issued_drafts run.increasing issued.drafts member

theorem issued_total : Reconciliation.totalBilled (interval.billedBefore out rolled) =
    Decimal.total ((interval.rolledDrafts event existing rolled).map Draft.amount) := by
  rw [Reconciliation.totalBilled_eq, issued_drafts run bills issued member, List.map_cons, Decimal.total_cons]
  exact (congrArg (· + _) Decimal.value_zero).trans (zero_add _)

theorem issued_stakes : Reconciliation.stakes (interval.billedBefore out rolled) =
    .zero :: (interval.rolledDrafts event existing rolled).flatMap Draft.stakes := by
  rw [Reconciliation.stakes_eq, issued_drafts run bills issued member, List.flatMap_cons, Draft.stakes,
    lines_detail]
  rfl

theorem issued_deducted (units : List Json) :
    Decimal.total ((interval.rolledDrafts event existing rolled).map Draft.amount) ≤
      Reconciliation.totalDeducted units (interval.billedBefore out rolled) := by
  rw [← issued_total run bills issued member]
  apply Reconciliation.totalBilled_le_totalDeducted
  intro item among
  obtain ⟨⟨_, _, _, fits⟩, _⟩ := run.issuedFor bills issued item (List.mem_filter.1 among).1
  exact fits.balanced

/-- A repetition finds nothing left of the usage between two transitions. -/
theorem settled_after :
    Covered interval (existing ++ out) rolled (interval.pricedLines rolled.units) ∨
      AllReadable interval (existing ++ out) rolled ∧
        interval.rest (existing ++ out) rolled (interval.pricedLines rolled.units) ≤ 0 := by
  have total := issued_total run bills issued member
  have deducted := issued_deducted run bills issued member
    ((interval.pricedLines rolled.units).map Line.unit)
  have readable_after (readable : AllReadable interval existing rolled) :
      AllReadable interval (existing ++ out) rolled := by
    rw [AllReadable, billedBefore_append]
    exact List.forall_mem_append.2 ⟨readable, issued_readable run bills issued⟩
  have left_after : interval.rest (existing ++ out) rolled (interval.pricedLines rolled.units) =
      interval.rest existing rolled (interval.pricedLines rolled.units) -
        Reconciliation.totalDeducted ((interval.pricedLines rolled.units).map Line.unit)
          (interval.billedBefore out rolled) := by
    rw [rest, rest, billedBefore_append, Reconciliation.totalDeducted_append]
    ring
  -- a run that billed nothing leaves what it found; else its bill takes off what was left
  rcases run.outcome bills member with ⟨none, settled⟩ | ⟨_, readable, _, drafted⟩
  · rw [none, List.map_nil, Decimal.total_nil] at total deducted
    rcases settled with ⟨some, covered⟩ | ⟨readable, left⟩
    · refine .inl ⟨?_, ?_⟩
      · rw [billedBefore_append]
        exact List.append_ne_nil_of_left_ne_nil some _
      · rw [billedBefore_append, Reconciliation.totalBilled_append, total, add_zero]
        exact covered
    · refine .inr ⟨readable_after readable, ?_⟩
      linarith
  · refine .inr ⟨readable_after readable, ?_⟩
    rw [drafted.value] at deducted
    linarith

/-- A repetition has room for its amounts: the bill adds at most ten times what the run had. -/
theorem measured_after : Measured places interval (existing ++ out) rolled
    (interval.pricedLines rolled.units) := by
  have first := run.measured member (bills.each rolled member)
  have stakes_after : Reconciliation.stakes (interval.billedBefore (existing ++ out) rolled) =
      Reconciliation.stakes (interval.billedBefore existing rolled) ++
        .zero :: (interval.rolledDrafts event existing rolled).flatMap Draft.stakes := by
    rw [billedBefore_append, Reconciliation.stakes_append, issued_stakes run bills issued member]
  have charged := Decimal.size_nonneg ((interval.pricedLines rolled.units).map Line.amount)
  have staked := Decimal.size_nonneg (Reconciliation.stakes (interval.billedBefore existing rolled))
  -- the second run sees the stakes of the first and those of its bill
  obtain ⟨placed, bound⟩ : (∀ amount ∈ (interval.rolledDrafts event existing rolled).flatMap Draft.stakes,
      amount.HasPlaces places) ∧
      Decimal.size ((interval.rolledDrafts event existing rolled).flatMap Draft.stakes) ≤
        2 * (Decimal.size ((interval.pricedLines rolled.units).map Line.amount) +
          2 * Decimal.size (Reconciliation.stakes (interval.billedBefore existing rolled))) := by
    rcases run.outcome bills member with ⟨none, _⟩ | ⟨_, _, _, drafted⟩
    · rw [none, List.flatMap_nil, Decimal.size_nil]
      exact ⟨List.forall_mem_nil _, by linarith⟩
    · exact ⟨drafted.placed, drafted.size⟩
  refine { first with formed := ?formed, stakes_placed := ?stakes_placed, room := ?room }
  case formed =>
    rw [billedBefore_append]
    refine List.forall_mem_append.2 ⟨first.formed, ?_⟩
    intro item among
    exact (run.issuedFor bills issued item (List.mem_filter.1 among).1).2
  case stakes_placed =>
    rw [stakes_after]
    exact List.forall_mem_append.2 ⟨first.stakes_placed,
      List.forall_mem_cons.2 ⟨Decimal.zero_hasPlaces places, placed⟩⟩
  case room =>
    have size := size_stakes member existing
    have room := run.room
    rw [stakes_after, Decimal.size_append, Decimal.size_cons, Decimal.value_zero, abs_zero,
      Decimal.room_eq run.few]
    linarith

end

-- When to come back is a matter of the events, and not of the form of the items.
theorem ready_again (ready : Ready interval event date) (settings : Settings) (tenant : Option String) :
    Ready { interval with settings, tenant } event date := by
  have due : dueDates { interval with settings, tenant } interval.events = interval.dueDates interval.events := by
    apply dueDates_congr
    intro _ _
    rfl
  refine ⟨ready.built, ready.begins, ?_⟩
  have next := ready.next
  unfold nextNotification at next ⊢
  rw [due]
  exact next

theorem Measured.again {candidates : List Line}
    (measured : Measured places interval existing rolled candidates) (settings : Settings)
    (tenant : Option String) :
    Measured places { interval with settings, tenant } existing rolled candidates :=
  { measured with }

/-- Billing a second time bills nothing: given all items of the first run beside those it was given,
a run of the same interval in any mode gives just its markers, and the same date to come back. -/
theorem rerun_gives_markers {fresh : UsageInterval} {closed : Bool}
    (built : fresh.build closed = .ok interval) (wellPriced : interval.usage.WellPriced)
    (formed : ∀ item ∈ existing, item.WellFormed) (exact : Decimal.Exact (interval.stakes existing))
    (success : (interval.bill existing).next = .ok date)
    (issued : Issued (interval.bill existing).drafts out) (settings : Settings)
    (tenant : Option String) :
    (bill { interval with settings, tenant } (existing ++ out)).next = .ok date ∧
      ∃ event, interval.firstEvent = .ok event ∧
        (bill { interval with settings, tenant } (existing ++ out)).drafts = interval.markers event := by
  obtain ⟨places, run⟩ := exactRun_of (increasing_of_build built) wellPriced formed exact
  obtain ⟨event, bills⟩ := bills_of_success success
  have each : ∀ rolled ∈ interval.usageRolledUp,
      billRolled { interval with settings, tenant } event (existing ++ out) rolled = .ok [] := by
    intro rolled member
    have measured := (measured_after run bills issued member).again settings tenant
    have settled := settled_after run bills issued member
    exact billRolled_settled run.few measured.toCharged settled
  obtain ⟨next, drafts⟩ := bill_markers (ready_again bills.ready settings tenant) each
  exact ⟨next, event, bills.ready.begins, drafts⟩

open Calls (paid march) in
theorem rerun_of_calls :
    (bill { Calls.interval with settings := { mode := .detail } }
        ([paid 1] ++ Item.number 0 (Calls.interval.bill [paid 1]).drafts)).next = .ok march ∧
      ∃ event, Calls.interval.firstEvent = .ok event ∧
        (bill { Calls.interval with settings := { mode := .detail } }
          ([paid 1] ++ Item.number 0 (Calls.interval.bill [paid 1]).drafts)).drafts = Calls.interval.markers event := by
  have formed : ∀ item ∈ [paid 1], item.WellFormed :=
    List.forall_mem_cons.2 ⟨Calls.wellFormed_paid 1, List.forall_mem_nil _⟩
  have exact : Decimal.Exact (Calls.interval.stakes [paid 1]) := @Decimal.exact_ofInt [2, 2, 1] (by decide)
  have success : (Calls.interval.bill [paid 1]).next = .ok march := by rfl
  have issued := Issued.number 0 (Calls.interval.bill [paid 1]).drafts
  exact rerun_gives_markers Calls.build_collecting Calls.wellPriced_usage formed exact success issued
    { mode := .detail } none

end Arrears.UsageInterval
