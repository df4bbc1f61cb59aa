import Arrears.Proofs.Interval.Rerun

/-! The two forms of a bill. With one item for the time between two transitions or with one for each
line, the same times are billed with the same lines: a blob that is read back lists what the items
for the lines say, and comes to what is billed. -/

set_option autoImplicit false

namespace Arrears

/-- The item for the usage of some time, and the items for its lines: the blob of the one lists
amounts, prices and quantities of the others as they are, and comes to its amount. -/
structure Itemized (whole : Draft) (parts : List Draft) : Prop where
  some_part : parts ≠ []
  period : ∀ part ∈ parts, part.start = whole.start ∧ part.stop = whole.stop
  lines : ∃ lines, Line.readBlob whole.details = .ok (some lines) ∧
    (lines.map fun line => (line.amount, line.price, line.quantity)) =
      (parts.map fun part => (part.amount, part.rate, part.quantity)) ∧
    Line.total lines = .ok whole.amount
  positive : Decimal.zero.lt whole.amount = .ok true

theorem Line.total_reread (lines : List Line) : total (lines.map reread) = total lines := by
  rw [total, List.map_map]
  rfl

namespace UsageInterval

variable {interval : UsageInterval} {event : BillingEvent} {existing : List Item} {date : Date}
  {rolled : RolledUsage} {drafts : List Draft} {settings : Settings} {tenant : Option String}

theorem itemsFor_itemized {start stop : Date} {amount : Decimal} {lines : List Line}
    (aggregate : interval.settings.modeFor interval.tenant = .aggregate)
    (detail : settings.modeFor tenant = .detail) (sound : ∀ line ∈ lines, line.Sound)
    (summed : Line.total lines = .ok amount) (something : amount.le .zero = .ok false)
    (made : interval.itemsFor event start stop amount lines = .ok drafts) :
    ∃ whole parts, drafts = [whole] ∧
      itemsFor { interval with settings, tenant } event start stop amount lines = .ok parts ∧
      (whole.start, whole.stop) = (start, some stop) ∧ Itemized whole parts := by
  rw [itemsFor, aggregate] at made
  obtain ⟨blob, written, same⟩ := bind_eq_ok.1 made
  cases same
  have other : itemsFor { interval with settings, tenant } event start stop amount lines =
      .ok (lines.map fun line =>
        interval.draft event start stop line.amount line.price line.quantity .null) := by
    rw [itemsFor, detail]
    rfl
  have some_line : lines ≠ [] := by
    rintro rfl
    cases summed
    cases something
  refine ⟨_, _, rfl, other, rfl, ?_⟩
  cases blob with
  | none => exact absurd (Line.eq_nil_of_writeBlob written) some_line
  | some text =>
    refine {
      some_part := fun none => some_line (List.map_eq_nil_iff.1 none)
      period := List.forall_mem_map.2 fun _ _ => ⟨rfl, rfl⟩
      lines := ⟨lines.map Line.reread, Line.readBlob_writeBlob sound written, ?_, ?_⟩
      positive := Decimal.lt_of_not_le something }
    · rw [List.map_map, List.map_map]
      rfl
    · rw [Line.total_reread]
      exact summed

theorem billRolled_itemized (aggregate : interval.settings.modeFor interval.tenant = .aggregate)
    (detail : settings.modeFor tenant = .detail) (wellPriced : interval.usage.WellPriced)
    (formed : ∀ item ∈ existing, item.WellFormed)
    (success : interval.billRolled event existing rolled = .ok drafts) :
    ∃ parts, billRolled { interval with settings, tenant } event existing rolled = .ok parts ∧
      (drafts = [] ∧ parts = [] ∨ ∃ whole, drafts = [whole] ∧
        (whole.start, whole.stop) = (rolled.start, some rolled.stop) ∧ Itemized whole parts) := by
  have priced_lines := priced_of_success success
  obtain ⟨candidates, due, before, priced, due_summed, found, bills⟩ := billRolled_eq_ok.1 success
  cases Except.ok.inj (priced.symm.trans priced_lines)
  have again {parts : List Draft} (bills : BillsRolled { interval with settings, tenant } event existing
      rolled (interval.pricedLines rolled.units) due before parts) :
      billRolled { interval with settings, tenant } event existing rolled = .ok parts :=
    billRolled_eq_ok.2 ⟨_, due, before, priced, due_summed, found, bills⟩
  cases bills with
  | covered asked => exact ⟨[], again (.covered asked), .inl ⟨rfl, rfl⟩⟩
  | absorbed asked netted summed nothing =>
    exact ⟨[], again (.absorbed asked netted summed nothing), .inl ⟨rfl, rfl⟩⟩
  | billed asked netted summed something made =>
    have formed_before : ∀ item ∈ interval.billedBefore existing rolled, item.WellFormed :=
      fun item member => formed item (List.mem_filter.1 member).1
    obtain ⟨_, sound⟩ :=
      Reconciliation.sound_net (sound_pricedLines wellPriced rolled.units) formed_before netted
    obtain ⟨whole, parts, same, other, period, itemized⟩ :=
      itemsFor_itemized aggregate detail sound summed something made
    exact ⟨parts, again (.billed asked netted summed something other), .inr ⟨whole, same, period, itemized⟩⟩

-- Bills in the two forms side by side, each with what it is for.
theorem itemized_flatMap (usage : List RolledUsage) (one other : RolledUsage → List Draft)
    (forms : ∀ rolled ∈ usage, one rolled = [] ∧ other rolled = [] ∨ ∃ whole, one rolled = [whole] ∧
      (whole.start, whole.stop) = (rolled.start, some rolled.stop) ∧ Itemized whole (other rolled)) :
    ∃ parts, usage.flatMap other = parts.flatten ∧ List.Forall₂ Itemized (usage.flatMap one) parts ∧
      ((usage.flatMap one).map fun whole => (whole.start, whole.stop)).Sublist
        (usage.map fun rolled => (rolled.start, some rolled.stop)) := by
  induction usage with
  | nil => exact ⟨[], rfl, .nil, .slnil⟩
  | cons rolled usage ih =>
    obtain ⟨first, rest⟩ := List.forall_mem_cons.1 forms
    obtain ⟨parts, flat, related, among⟩ := ih rest
    rw [List.flatMap_cons, List.flatMap_cons, List.map_cons]
    rcases first with ⟨no_whole, no_parts⟩ | ⟨whole, single, period, itemized⟩
    · rw [no_whole, no_parts]
      exact ⟨parts, flat, related, among.cons _⟩
    · rw [single, flat, ← period]
      exact ⟨other rolled :: parts, rfl, related.cons itemized, among.cons_cons _⟩

/-- Both forms bill the same. If a run that gives one item for each time with usage succeeds, so
does the run that gives an item for each line, with the same markers and the same date to come back;
and the times that are billed are the same ones in the same order, each with the same lines. -/
theorem detail_itemizes_aggregate (wellPriced : interval.usage.WellPriced)
    (formed : ∀ item ∈ existing, item.WellFormed)
    (aggregate : interval.settings.modeFor interval.tenant = .aggregate)
    (detail : settings.modeFor tenant = .detail)
    (success : (interval.bill existing).next = .ok date) :
    (bill { interval with settings, tenant } existing).next = .ok date ∧
      ∃ event wholes parts, interval.firstEvent = .ok event ∧
        (interval.bill existing).drafts = interval.markers event ++ wholes ∧
        (bill { interval with settings, tenant } existing).drafts =
          interval.markers event ++ parts.flatten ∧
        List.Forall₂ Itemized wholes parts ∧
        (wholes.map fun whole => (whole.start, whole.stop)).Sublist
          ((Rollup.pairs interval.transitions).map fun pair => (pair.1, some pair.2)) := by
  obtain ⟨event, bills⟩ := bills_of_success success
  have forms (rolled : RolledUsage) (member : rolled ∈ interval.usageRolledUp) :=
    billRolled_itemized aggregate detail wellPriced formed (bills.each rolled member)
  have each : ∀ rolled ∈ interval.usageRolledUp,
      billRolled { interval with settings, tenant } event existing rolled =
        .ok (rolledDrafts { interval with settings, tenant } event existing rolled) := by
    intro rolled member
    obtain ⟨parts, made, _⟩ := forms rolled member
    rw [rolledDrafts, made]
  obtain ⟨next, drafts⟩ := bill_of_each (ready_again bills.ready settings tenant) each
  obtain ⟨parts, flat, related, among⟩ :=
    itemized_flatMap interval.usageRolledUp (interval.rolledDrafts event existing)
      (rolledDrafts { interval with settings, tenant } event existing) fun rolled member => by
        obtain ⟨parts, made, form⟩ := forms rolled member
        rwa [Except.ok.inj ((each rolled member).symm.trans made)]
  refine ⟨next, event, _, parts, bills.ready.begins, bills.drafts, ?_, related, among.trans ?_⟩
  · rw [← flat]
    exact drafts
  · have within := interval.usageRolledUp_sublist.map fun pair => (pair.1, some pair.2)
    rwa [List.map_map] at within

open Calls (paid march) in
theorem itemized_calls :
    (bill { Calls.interval with settings := { mode := .detail } } [paid 1]).next = .ok march ∧
      ∃ event wholes parts, Calls.interval.firstEvent = .ok event ∧
        (Calls.interval.bill [paid 1]).drafts = Calls.interval.markers event ++ wholes ∧
        (bill { Calls.interval with settings := { mode := .detail } } [paid 1]).drafts =
          Calls.interval.markers event ++ parts.flatten ∧
        List.Forall₂ Itemized wholes parts ∧
        (wholes.map fun whole => (whole.start, whole.stop)).Sublist
          ((Rollup.pairs Calls.interval.transitions).map fun pair => (pair.1, some pair.2)) := by
  have formed : ∀ item ∈ [paid 1], item.WellFormed :=
    List.forall_mem_cons.2 ⟨Calls.wellFormed_paid 1, List.forall_mem_nil _⟩
  have success : (Calls.interval.bill [paid 1]).next = .ok march := by rfl
  exact detail_itemizes_aggregate Calls.wellPriced_usage formed rfl rfl success

end UsageInterval

end Arrears
