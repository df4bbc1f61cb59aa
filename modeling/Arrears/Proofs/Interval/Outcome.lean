import Arrears.Proofs.Interval.Pairs
import Mathlib.Data.List.Flatten

/-! What a successful run bills, pair by pair, when its arithmetic is exact. For the usage between
two transitions that is what its price leaves when the earlier items are deducted, if that is
something and the earlier items do not cover the price already. -/

set_option autoImplicit false

namespace Arrears.UsageInterval

-- The arithmetic of a run is exact: all amounts that it can touch have few places and are small in
-- total. The transitions are in order as building leaves them, and prices and items are such as
-- can be written.
structure ExactRun (places : Nat) (interval : UsageInterval) (existing : List Item) : Prop where
  few : places ≤ 20
  increasing : Increasing interval.transitions
  wellPriced : interval.usage.WellPriced
  formed : ∀ item ∈ existing, item.WellFormed
  placed : ∀ amount ∈ interval.stakes existing, amount.HasPlaces places
  room : Decimal.size (interval.stakes existing) < 10 ^ (27 - places)

theorem exactRun_of {interval : UsageInterval} {existing : List Item}
    (increasing : Increasing interval.transitions) (wellPriced : interval.usage.WellPriced)
    (formed : ∀ item ∈ existing, item.WellFormed) (exact : Decimal.Exact (interval.stakes existing)) :
    ∃ places, ExactRun places interval existing := by
  obtain ⟨places, few, placed, room⟩ := exact
  exact ⟨places, few, increasing, wellPriced, formed, placed, room⟩

variable {interval : UsageInterval} {event : BillingEvent} {existing : List Item} {date : Date}
  {places : Nat} {rolled : RolledUsage} {drafts : List Draft}

theorem priced_of_success (success : interval.billRolled event existing rolled = .ok drafts) :
    interval.priceUsed rolled.units = .ok (interval.pricedLines rolled.units) := by
  obtain ⟨candidates, _, _, priced, _⟩ := billRolled_eq_ok.1 success
  rw [pricedLines, priced]

theorem fresh_pricedLines (interval : UsageInterval) (used : List RolledUnit) :
    ∀ line ∈ interval.pricedLines used, line.Fresh interval.usage.WellPriced := by
  unfold pricedLines
  split
  next lines priced =>
    obtain ⟨_, _, rest⟩ := bind_eq_ok.1 priced
    obtain ⟨event, _, rest⟩ := bind_eq_ok.1 rest
    exact Usage.fresh_price rest
  next => exact List.forall_mem_nil _

theorem sound_pricedLines (wellPriced : interval.usage.WellPriced) (used : List RolledUnit) :
    ∀ line ∈ interval.pricedLines used, line.Sound :=
  fun line member => (fresh_pricedLines interval used line member).sound wellPriced

theorem priced_sublist (member : rolled ∈ interval.usageRolledUp) (existing : List Item) :
    ((interval.pricedLines rolled.units).map Line.amount).Sublist (interval.stakes existing) := by
  rw [stakes, List.flatMap_def]
  have within := List.mem_map_of_mem (f := fun rolled : RolledUsage =>
    (interval.pricedLines rolled.units).map Line.amount) member
  exact (List.sublist_flatten_of_mem within).trans (List.sublist_append_left _ _)

theorem stakes_sublist (interval : UsageInterval) (existing : List Item) (rolled : RolledUsage) :
    (Reconciliation.stakes (interval.billedBefore existing rolled)).Sublist
      (Reconciliation.stakes existing) :=
  List.Sublist.flatMap List.filter_sublist _

theorem size_stakes (member : rolled ∈ interval.usageRolledUp) (existing : List Item) :
    Decimal.size ((interval.pricedLines rolled.units).map Line.amount) +
      Decimal.size (Reconciliation.stakes (interval.billedBefore existing rolled)) ≤
      Decimal.size (interval.stakes existing) := by
  have priced := priced_sublist member []
  have staked := Decimal.size_le_of_sublist (stakes_sublist interval existing rolled)
  rw [stakes, Reconciliation.stakes, List.flatMap_nil, List.append_nil] at priced
  have charged := Decimal.size_le_of_sublist priced
  rw [stakes, Decimal.size_append]
  exact add_le_add charged staked

theorem charged_of (few : places ≤ 20)
    (placed : ∀ amount ∈ interval.stakes existing, amount.HasPlaces places)
    (room : Decimal.size (interval.stakes existing) < 10 ^ (27 - places))
    (member : rolled ∈ interval.usageRolledUp)
    (priced : interval.priceUsed rolled.units = .ok (interval.pricedLines rolled.units)) :
    Charged places interval existing rolled (interval.pricedLines rolled.units) where
  priced := priced
  unabsorbed := fun line among => (fresh_pricedLines interval rolled.units line among).absorbed
  placed := by
    intro line among
    exact placed _ ((priced_sublist member existing).subset (List.mem_map_of_mem among))
  stakes_placed := by
    intro amount among
    apply placed amount
    rw [stakes]
    exact List.mem_append_right _ ((stakes_sublist interval existing rolled).subset among)
  room := by
    have charged := Decimal.size_nonneg ((interval.pricedLines rolled.units).map Line.amount)
    have size := size_stakes member existing
    have positive : (0 : ℚ) < 10 ^ (27 - places) := by positivity
    rw [Decimal.room_eq few]
    linarith

theorem ExactRun.measured (run : ExactRun places interval existing)
    (member : rolled ∈ interval.usageRolledUp)
    (success : interval.billRolled event existing rolled = .ok drafts) :
    Measured places interval existing rolled (interval.pricedLines rolled.units) where
  toCharged := charged_of run.few run.placed run.room member (priced_of_success success)
  sound := sound_pricedLines run.wellPriced rolled.units
  formed := fun item among => run.formed item (List.mem_filter.1 among).1

/-! ## Drafts by pairs -/

theorem ExactRun.outcome (run : ExactRun places interval existing)
    (bills : Bills interval event existing date) (member : rolled ∈ interval.usageRolledUp) :
    (interval.rolledDrafts event existing rolled = [] ∧
      (Covered interval existing rolled (interval.pricedLines rolled.units) ∨
        AllReadable interval existing rolled ∧
          interval.rest existing rolled (interval.pricedLines rolled.units) ≤ 0)) ∨
    (¬ Covered interval existing rolled (interval.pricedLines rolled.units) ∧
      AllReadable interval existing rolled ∧
      0 < interval.rest existing rolled (interval.pricedLines rolled.units) ∧
      Drafted places interval.usage.name rolled.start rolled.stop
        (interval.rest existing rolled (interval.pricedLines rolled.units))
        (2 * (Decimal.size ((interval.pricedLines rolled.units).map Line.amount) +
          2 * Decimal.size (Reconciliation.stakes (interval.billedBefore existing rolled))))
        (interval.rolledDrafts event existing rolled)) :=
  have success := bills.each rolled member
  billRolled_outcome run.few (run.measured member success) success

theorem ExactRun.fits_rolled (run : ExactRun places interval existing)
    (bills : Bills interval event existing date) :
    ∀ rolled ∈ interval.usageRolledUp, ∀ draft ∈ interval.rolledDrafts event existing rolled,
      draft.Fits interval.usage.name rolled.start rolled.stop := by
  intro rolled member draft made
  rcases run.outcome bills member with ⟨none, _⟩ | ⟨_, _, _, drafted⟩
  · rw [none] at made
    exact absurd made List.not_mem_nil
  · exact drafted.fits draft made

theorem fits_marker (interval : UsageInterval) (event : BillingEvent) (start stop : Date) :
    (interval.draft event start stop .zero none .null .null).Fits interval.usage.name start stop :=
  fits_detail trivial nofun

theorem ExactRun.fits (run : ExactRun places interval existing)
    (bills : Bills interval event existing date) :
    ∀ draft ∈ (interval.bill existing).drafts, ∃ start stop,
      (start, stop) ∈ Rollup.pairs interval.transitions ∧ draft.Fits interval.usage.name start stop := by
  intro draft member
  rw [bills.drafts] at member
  rcases List.mem_append.1 member with marker | made
  · obtain ⟨⟨start, stop⟩, pair, rfl⟩ := List.mem_map.1 marker
    exact ⟨start, stop, pair, fits_marker interval event start stop⟩
  · obtain ⟨rolled, among, made⟩ := List.mem_flatMap.1 made
    have pair := interval.usageRolledUp_sublist.subset (List.mem_map_of_mem among)
    exact ⟨rolled.start, rolled.stop, pair, run.fits_rolled bills rolled among draft made⟩

def IssuedFor (interval : UsageInterval) (item : Item) : Prop :=
  ∃ start stop, (start, stop) ∈ Rollup.pairs interval.transitions ∧
    item.toDraft.Fits interval.usage.name start stop

theorem IssuedFor.spansPair {item : Item} (issued : interval.IssuedFor item) : interval.SpansPair item := by
  obtain ⟨start, stop, pair, fits⟩ := issued
  exact ⟨start, stop, pair, fits.toSpans⟩

theorem ExactRun.issuedFor (run : ExactRun places interval existing)
    (bills : Bills interval event existing date) {out : List Item}
    (issued : Issued (interval.bill existing).drafts out) :
    ∀ item ∈ out, interval.IssuedFor item ∧ item.WellFormed := by
  intro item member
  have drafted : item.toDraft ∈ (interval.bill existing).drafts :=
    issued.drafts ▸ List.mem_map_of_mem member
  obtain ⟨start, stop, pair, fits⟩ := run.fits bills item.toDraft drafted
  exact ⟨⟨start, stop, pair, fits⟩, { fits.formed with id := issued.ids item member }⟩

end Arrears.UsageInterval
