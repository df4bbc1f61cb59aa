import Arrears.Pricing.Section
import Arrears.Proofs.Line.Blob
import Arrears.Proofs.Pricing.Capacity
import Arrears.Proofs.Pricing.Ladder

/-! The lines that pricing gives. They have absorbed nothing yet, and if the prices of the section can
be written, so can they. -/

set_option autoImplicit false

namespace Arrears

def Prices.Representable (prices : Prices) : Prop := ∀ entry ∈ prices, entry.2.Representable

def TieredBlock.WellPriced (block : TieredBlock) : Prop := Prices.Representable block.prices

structure Tier.WellPriced (tier : Tier) : Prop where
  recurring : Prices.Representable tier.recurringPrices
  blocks : ∀ block ∈ tier.blocks, block.WellPriced

def Usage.WellPriced (usage : Usage) : Prop := ∀ tier ∈ usage.tiers, tier.WellPriced

/-- A line that has absorbed nothing, and can be written if the prices it rests on can. -/
structure Line.Fresh (wellPriced : Prop) (line : Line) : Prop where
  absorbed : line.absorbed = none
  sound : wellPriced → line.Sound

theorem Line.Fresh.mono {wellPriced stronger : Prop} {line : Line} (fresh : line.Fresh wellPriced)
    (implies : stronger → wellPriced) : line.Fresh stronger :=
  ⟨fresh.absorbed, fun holds => fresh.sound (implies holds)⟩

theorem representable_priceFor {prices : Prices} {currency : String} {priced : Priced}
    {price : Decimal} (representable : Prices.Representable prices)
    (found : priceFor prices currency priced = .ok price) : price.Representable :=
  representable _ (Assoc.mem_of_get? (priceFor_eq_ok.1 found))

theorem Line.fresh_of {tier quantity : Int} {unit : String} {price amount : Decimal}
    (amount_representable : price.Representable → amount.Representable) :
    Line.Fresh price.Representable ⟨tier, .str unit, some price, .int quantity, amount, none, .null⟩ where
  absorbed := rfl
  sound := fun representable => {
    price := by rintro d same; cases same; exact representable
    amount := amount_representable representable
    absorbed := nofun
    quantity := trivial
    unit := rfl
    reference := rfl }

/-! ## Consumption -/

namespace Ladder

theorem fresh_charge {currency : String} {tier : Nat} {block : TieredBlock} {blocks : Int}
    {line : Line} (charged : charge currency tier block blocks = .ok line) :
    line.Fresh block.WellPriced := by
  obtain ⟨price, found, rest⟩ := bind_eq_ok.1 charged
  obtain ⟨amount, multiplied, same⟩ := bind_eq_ok.1 (mapError_eq_ok.1 rest)
  cases same
  exact (Line.fresh_of fun _ => Decimal.mul_representable multiplied).mono fun wellPriced =>
    representable_priceFor wellPriced (mapError_eq_ok.1 found)

theorem fresh_chargeAll {currency : String} {tier : Nat} {used : List (TieredBlock × Int)}
    {lines : List Line} (charged : chargeAll currency tier used = .ok lines) :
    ∀ line ∈ lines, line.Fresh (∀ entry ∈ used, entry.1.WellPriced) := by
  induction used generalizing tier lines with
  | nil => cases charged; exact List.forall_mem_nil _
  | cons entry used ih =>
    obtain ⟨line, one, others⟩ := bind_eq_ok.1 charged
    obtain ⟨lines, more, same⟩ := bind_eq_ok.1 others
    cases same
    refine List.forall_mem_cons.2 ⟨?_, fun line member => ?_⟩
    · exact (fresh_charge one).mono fun wellPriced => (List.forall_mem_cons.1 wellPriced).1
    · exact (ih more line member).mono fun wellPriced => (List.forall_mem_cons.1 wellPriced).2

end Ladder

namespace Usage

theorem wellPriced_blocksOf {usage : Usage} (wellPriced : usage.WellPriced) (unit : String) :
    ∀ block ∈ usage.blocksOf unit, block.WellPriced := by
  intro block member
  obtain ⟨tier, tier_member, within⟩ := List.mem_flatMap.1 (List.mem_filter.1 member).1
  exact (wellPriced tier tier_member).blocks block within

theorem fresh_priceUnit {usage : Usage} {unit : String} {amount : Int} {currency : String}
    {lines : List Line} (priced : usage.priceUnit unit amount currency = .ok lines) :
    ∀ line ∈ lines, line.Fresh usage.WellPriced := by
  obtain ⟨blocks, found, rest⟩ := bind_eq_ok.1 priced
  -- the ladder holds blocks of the section alone
  have of_unit (wellPriced : usage.WellPriced) : ∀ block ∈ blocks, block.WellPriced := by
    have found := mapError_eq_ok.1 found
    unfold ladder at found
    split at found
    · cases found
    · split at found
      · cases found
      · cases found
        exact wellPriced_blocksOf wellPriced unit
  split at rest
  next =>
    exact fun line member => (Ladder.fresh_chargeAll rest line member).mono fun wellPriced entry among =>
      of_unit wellPriced _ (Ladder.mem_fill entry among)
  next =>
    split at rest
    next landed =>
      obtain ⟨⟨tier, block⟩, at_block, charged⟩ := Option.map_eq_some_iff.1 landed
      obtain ⟨line, one, same⟩ := bind_eq_ok.1 rest
      cases same
      refine List.forall_mem_cons.2 ⟨?_, List.forall_mem_nil _⟩
      exact (Ladder.fresh_charge (charged.trans one)).mono fun wellPriced =>
        of_unit wellPriced block (Ladder.mem_landing at_block)
    next => cases rest; exact List.forall_mem_nil _
  next => cases rest

theorem fresh_priceUnits {usage : Usage} {currency : String} {used : List RolledUnit}
    {lines : List Line} (priced : usage.priceUnits currency used = .ok lines) :
    ∀ line ∈ lines, line.Fresh usage.WellPriced := by
  induction used generalizing lines with
  | nil => cases priced; exact List.forall_mem_nil _
  | cons rolled more ih =>
    obtain ⟨first, one, others⟩ := bind_eq_ok.1 priced
    obtain ⟨rest, left, same⟩ := bind_eq_ok.1 others
    cases same
    exact List.forall_mem_append.2 ⟨fresh_priceUnit one, ih left⟩

end Usage

/-! ## Capacity -/

namespace Capacity

theorem fresh_freeLine {tier : Nat} {price amount : Decimal} (rolled : RolledUnit)
    (charged : price.Representable → amount.Representable) :
    Line.Fresh price.Representable { freeLine tier price rolled with amount } :=
  Line.fresh_of charged

theorem fresh_lines {tier : Nat} {price : Decimal} (used : List RolledUnit) :
    ∀ line ∈ lines tier price used, line.Fresh price.Representable := by
  fun_induction lines tier price used with
  | case1 => exact List.forall_mem_nil _
  | case2 rolled =>
    exact List.forall_mem_cons.2 ⟨fresh_freeLine rolled id, List.forall_mem_nil _⟩
  | case3 rolled more nonempty ih =>
    refine List.forall_mem_cons.2 ⟨?_, ih⟩
    exact fresh_freeLine rolled fun _ => by decide

theorem fresh_price {usage : Usage} {used : List RolledUnit} {currency : String} {lines : List Line}
    (kind : usage.usageType = .capacity) (priced : price usage used currency = .ok lines) :
    ∀ line ∈ lines, line.Fresh usage.WellPriced := by
  by_cases empty : used = []
  · subst empty
    cases priced
    exact List.forall_mem_nil _
  · obtain ⟨lower, tier, due, selects, rfl⟩ := (price_eq_ok_iff kind empty).1 priced
    refine fun line member => (fresh_lines used line member).mono fun wellPriced => ?_
    exact (wellPriced tier selects.first.mem).recurring _ (Assoc.mem_of_get? selects.priced)

end Capacity

theorem Usage.fresh_price {usage : Usage} {used : List RolledUnit} {currency : String}
    {lines : List Line} (priced : usage.price used currency = .ok lines) :
    ∀ line ∈ lines, line.Fresh usage.WellPriced := by
  unfold Usage.price at priced
  split at priced
  next kind => exact Capacity.fresh_price kind (mapError_eq_ok.1 priced)
  next => exact fresh_priceUnits priced

end Arrears
