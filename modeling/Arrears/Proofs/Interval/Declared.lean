import Arrears.Proofs.Interval.Run

/-! What consumption is priced at. Each declared unit is priced on the ladder of its own blocks, and the
lines of one unit stand behind those of the other. Of undeclared units there is no line, and nothing
goes wrong with a declared one but that a block has no price in the currency or that arithmetic fails. -/

set_option autoImplicit false

namespace Arrears

namespace Ladder

variable {blocks : List TieredBlock} {block : TieredBlock} {units n : Int} {tier place : Nat}
  {currency : String} {error : Error}

/-! ## Places in a ladder -/

theorem fill_prefix (blocks : List TieredBlock) (units : Int) :
    (fill blocks units).map Prod.fst <+: blocks := by
  induction blocks generalizing units with
  | nil => exact List.prefix_rfl
  | cons block higher ih =>
    rw [fill_cons]
    split
    · exact List.cons_prefix_cons.2 ⟨rfl, ih _⟩
    · exact List.cons_prefix_cons.2 ⟨rfl, List.nil_prefix⟩

theorem fill_at {entry : TieredBlock × Int} (stands : (fill blocks units)[place]? = some entry) :
    blocks[place]? = some entry.1 := by
  have named : ((fill blocks units).map Prod.fst)[place]? = some entry.1 := by
    rw [List.getElem?_map, stands, Option.map_some]
  obtain ⟨higher, whole⟩ := fill_prefix blocks units
  rw [← whole, List.getElem?_append_left (List.getElem?_eq_some_iff.1 named).1]
  exact named

theorem fill_ne_nil (nonempty : blocks ≠ []) (units : Int) : fill blocks units ≠ [] := by
  cases blocks with
  | nil => exact absurd rfl nonempty
  | cons block higher =>
    rw [fill_cons]
    split
    · exact List.cons_ne_nil _ _
    · exact List.cons_ne_nil _ _

theorem landing_at (landed : landing blocks units = some (tier, block)) :
    ∃ place, tier = place + 1 ∧ blocks[place]? = some block := by
  rw [landing_eq, Option.map_eq_some_iff] at landed
  obtain ⟨entry, top, same⟩ := landed
  cases same
  rw [List.getLast?_eq_getElem?] at top
  have some_tier := (List.getElem?_eq_some_iff.1 top).1
  exact ⟨(fill blocks units).length - 1, by omega, fill_at top⟩

/-! ## Charging -/

theorem chargeAll_eq_mapM (currency : String) (tier : Nat) (used : List (TieredBlock × Int)) :
    chargeAll currency tier used =
      (used.zipIdx tier).mapM fun entry => charge currency entry.2 entry.1.1 entry.1.2 := by
  induction used generalizing tier with
  | nil => rfl
  | cons entry used ih => rw [chargeAll, ih, List.zipIdx_cons, List.mapM_cons]

theorem charge_eq_error (failed : charge currency tier block n = .error error) :
    (∃ fault, error = .arithmetic fault) ∨ Assoc.get? currency block.prices = none ∧
      error = .catalog (.noPrice currency (.block block.unit block.size)) := by
  rcases bind_eq_error.1 failed with unpriced | ⟨_, _, unmultiplied⟩
  · obtain ⟨fault, missing, rfl⟩ := mapError_eq_error.1 unpriced
    rw [TieredBlock.priceIn, priceFor] at missing
    split at missing
    next => cases missing
    next none => cases missing; exact .inr ⟨none, rfl⟩
  · obtain ⟨fault, _, rfl⟩ := mapError_eq_error.1 unmultiplied
    exact .inl ⟨fault, rfl⟩

end Ladder

namespace Usage

variable {usage : Usage} {currency : String} {rolled : RolledUnit} {used : List RolledUnit}
  {lines : List Line} {error : Error}

def Declares (usage : Usage) (unit : String) : Prop :=
  ∃ tier ∈ usage.tiers, ∃ block ∈ tier.blocks, block.unit = unit

instance (usage : Usage) (unit : String) : Decidable (usage.Declares unit) :=
  inferInstanceAs (Decidable (∃ tier ∈ usage.tiers, ∃ block ∈ tier.blocks, block.unit = unit))

theorem declares_iff {unit : String} : usage.Declares unit ↔ unit ∈ usage.consumableUnits := by
  constructor
  · rintro ⟨tier, among, block, within, rfl⟩
    exact List.mem_map_of_mem (List.mem_flatMap.2 ⟨tier, among, within⟩)
  · intro member
    obtain ⟨block, within, same⟩ := List.mem_map.1 member
    obtain ⟨tier, among, within⟩ := List.mem_flatMap.1 within
    exact ⟨tier, among, block, within, same⟩

/-- What the policy charges of a used unit: blocks of the ladder of the unit, how many of each, and the
places that they have in the ladder, counted from one. -/
def charged (usage : Usage) (rolled : RolledUnit) : List ((TieredBlock × Int) × Nat) :=
  match usage.policy with
  | .allTiers => (Ladder.fill (usage.blocksOf rolled.unit) rolled.amount).zipIdx 1
  | .topTier =>
    ((Ladder.landing (usage.blocksOf rolled.unit) rolled.amount).map fun (tier, block) =>
      ((block, block.blocksFor rolled.amount), tier)).toList
  | .unknown _ => []

theorem charged_at {entry : (TieredBlock × Int) × Nat} (member : entry ∈ usage.charged rolled) :
    ∃ place, entry.2 = place + 1 ∧ (usage.blocksOf rolled.unit)[place]? = some entry.1.1 := by
  obtain ⟨⟨block, n⟩, tier⟩ := entry
  unfold charged at member
  split at member
  next =>
    obtain ⟨first, stands⟩ := List.mk_mem_zipIdx_iff_le_and_getElem?_sub.1 member
    exact ⟨tier - 1, by omega, Ladder.fill_at stands⟩
  next =>
    obtain ⟨⟨tier, block⟩, landed, same⟩ := Option.map_eq_some_iff.1 (Option.mem_toList.1 member)
    cases same
    exact Ladder.landing_at landed
  next => exact absurd member List.not_mem_nil

theorem unit_of_at {place : Nat} {block : TieredBlock} {unit : String}
    (stands : (usage.blocksOf unit)[place]? = some block) : block.unit = unit :=
  eq_of_beq (List.mem_filter.1 (List.mem_of_getElem? stands)).2

theorem charged_ne_nil (known : ∀ name, usage.policy ≠ .unknown name) (declared : usage.Declares rolled.unit) :
    usage.charged rolled ≠ [] := by
  have nonempty := (usage.blocksOf_ne_nil rolled.unit).2 (declares_iff.1 declared)
  have filled := Ladder.fill_ne_nil nonempty rolled.amount
  unfold charged
  split
  next => rwa [ne_eq, List.zipIdx_eq_nil_iff]
  next => rw [Ladder.landing_eq, List.getLast?_eq_some_getLast filled]; exact List.cons_ne_nil _ _
  next name unknown => exact absurd unknown (known name)

theorem priceUnit_eq (consumable : usage.usageType = .consumable) (known : ∀ name, usage.policy ≠ .unknown name)
    (declared : usage.Declares rolled.unit) (currency : String) :
    usage.priceUnit rolled.unit rolled.amount currency = (usage.charged rolled).mapM fun entry =>
      Ladder.charge currency entry.2 entry.1.1 entry.1.2 := by
  have nonempty := (usage.blocksOf_ne_nil rolled.unit).2 (declares_iff.1 declared)
  have found : usage.ladder rolled.unit = .ok (usage.blocksOf rolled.unit) := by
    rw [ladder, if_neg (not_not.2 consumable), if_neg (by simpa using nonempty)]
  have opened (next : List TieredBlock → Except Error (List Line)) :
      liftM (usage.ladder rolled.unit) >>= next = next (usage.blocksOf rolled.unit) := by
    rw [found]
    rfl
  rw [priceUnit, opened, charged]
  cases policy : usage.policy with
  | allTiers => exact Ladder.chargeAll_eq_mapM currency 1 _
  | topTier =>
    dsimp only
    rw [Ladder.topTier?]
    cases Ladder.landing (usage.blocksOf rolled.unit) rolled.amount with
    | none => rfl
    | some landed =>
      rw [Option.map_some, Option.map_some, Option.toList_some, List.mapM_cons, List.mapM_nil]
      rfl
  | unknown name => exact absurd policy (known name)

theorem priceUnits_eq (currency : String) (used : List RolledUnit) :
    usage.priceUnits currency used =
      (used.mapM fun rolled => usage.priceUnit rolled.unit rolled.amount currency).map List.flatten := by
  induction used with
  | nil => rfl
  | cons rolled more ih =>
    rw [priceUnits, ih, List.mapM_cons]
    cases usage.priceUnit rolled.unit rolled.amount currency with
    | error error => rfl
    | ok lines =>
      cases more.mapM fun rolled => usage.priceUnit rolled.unit rolled.amount currency with
      | error error => rfl
      | ok others => rfl

/-- The lines of a used unit: one for each block that is charged, with the place that the block has
in the ladder of the unit, and at its price. -/
structure PricesUnit (usage : Usage) (currency : String) (rolled : RolledUnit) (lines : List Line) : Prop where
  some_line : lines ≠ []
  charges : List.Forall₂ (fun entry line => Ladder.Charges currency entry.2 entry.1.1 entry.1.2 line)
    (usage.charged rolled) lines
  placed : ∀ line ∈ lines, ∃ place block price, (usage.blocksOf rolled.unit)[place]? = some block ∧
    line.tier = (place + 1 : Nat) ∧ line.unit = .str rolled.unit ∧ line.price = some price ∧
    Assoc.get? currency block.prices = some price

theorem prices_iff (consumable : usage.usageType = .consumable)
    (known : ∀ name, usage.policy ≠ .unknown name) (declared : usage.Declares rolled.unit) :
    usage.priceUnit rolled.unit rolled.amount currency = .ok lines ↔ usage.PricesUnit currency rolled lines := by
  rw [priceUnit_eq consumable known declared]
  constructor
  · intro collected
    have charges := mapM_eq_ok_iff.1 collected
    simp only [Ladder.charge_eq_ok_iff] at charges
    refine ⟨?_, charges, fun line member => ?_⟩
    · rintro rfl
      exact charged_ne_nil known declared (List.forall₂_nil_right_iff.1 charges)
    · obtain ⟨entry, among, gives⟩ := (mem_mapM collected).1 member
      obtain ⟨place, counted, stands⟩ := charged_at among
      obtain ⟨price, amount, found, _, rfl⟩ := Ladder.charge_eq_ok_iff.1 gives
      exact ⟨place, _, price, stands, congrArg _ counted, congrArg _ (unit_of_at stands), rfl, found⟩
  · intro prices
    rw [mapM_eq_ok_iff]
    simp only [Ladder.charge_eq_ok_iff]
    exact prices.charges

theorem priceUnit_eq_error (consumable : usage.usageType = .consumable)
    (known : ∀ name, usage.policy ≠ .unknown name) (declared : usage.Declares rolled.unit)
    (failed : usage.priceUnit rolled.unit rolled.amount currency = .error error) :
    (∃ fault, error = .arithmetic fault) ∨ ∃ entry ∈ usage.charged rolled,
      Assoc.get? currency entry.1.1.prices = none ∧
        error = .catalog (.noPrice currency (.block entry.1.1.unit entry.1.1.size)) := by
  rw [priceUnit_eq consumable known declared] at failed
  obtain ⟨entry, among, failed⟩ := exists_of_mapM_error failed
  exact (Ladder.charge_eq_error failed).imp_right fun missing => ⟨entry, among, missing⟩

/-! ## All used units -/

theorem price_eq (consumable : usage.usageType = .consumable) (used : List RolledUnit) (currency : String) :
    usage.price used currency = ((used.filter fun rolled => decide (usage.Declares rolled.unit)).mapM fun rolled =>
      usage.priceUnit rolled.unit rolled.amount currency).map List.flatten := by
  rw [← priceUnits_eq, price, consumable]
  simp only [declares_iff, units, consumable]

theorem price_eq_ok_iff (consumable : usage.usageType = .consumable)
    (known : ∀ name, usage.policy ≠ .unknown name) :
    usage.price used currency = .ok lines ↔ ∃ each, lines = each.flatten ∧
      List.Forall₂ (usage.PricesUnit currency) (used.filter fun rolled => decide (usage.Declares rolled.unit)) each := by
  have declared : ∀ rolled ∈ used.filter fun rolled => decide (usage.Declares rolled.unit),
      usage.Declares rolled.unit := fun _ member => of_decide_eq_true (List.mem_filter.1 member).2
  rw [price_eq consumable, map_eq_ok]
  constructor
  · rintro ⟨each, collected, rfl⟩
    refine ⟨each, rfl, ?_⟩
    refine ((List.forall₂_and_left _ _).2 ⟨declared, mapM_eq_ok_iff.1 collected⟩).imp ?_
    exact fun rolled lines ⟨declared, priced⟩ => (prices_iff consumable known declared).1 priced
  · rintro ⟨each, rfl, prices⟩
    refine ⟨each, mapM_eq_ok_iff.2 ?_, rfl⟩
    refine ((List.forall₂_and_left _ _).2 ⟨declared, prices⟩).imp ?_
    exact fun rolled lines ⟨declared, prices⟩ => (prices_iff consumable known declared).2 prices

theorem price_eq_error (consumable : usage.usageType = .consumable)
    (known : ∀ name, usage.policy ≠ .unknown name) (failed : usage.price used currency = .error error) :
    (∃ fault, error = .arithmetic fault) ∨ ∃ rolled ∈ used, usage.Declares rolled.unit ∧
      ∃ entry ∈ usage.charged rolled, Assoc.get? currency entry.1.1.prices = none ∧
        error = .catalog (.noPrice currency (.block entry.1.1.unit entry.1.1.size)) := by
  rw [price_eq consumable, map_eq_error] at failed
  obtain ⟨rolled, among, failed⟩ := exists_of_mapM_error failed
  obtain ⟨listed, declared⟩ := List.mem_filter.1 among
  have declared := of_decide_eq_true declared
  exact (priceUnit_eq_error consumable known declared failed).imp_right fun missing =>
    ⟨rolled, listed, declared, missing⟩

end Usage

namespace UsageInterval

variable {collecting interval : UsageInterval} {closed : Bool}

theorem priceUsed_of_build (built : collecting.build closed = .ok interval) :
    ∃ event, interval.firstEvent = .ok event ∧
      ∀ used, interval.priceUsed used = interval.usage.price used event.currency := by
  obtain ⟨event, _, transitions, begins, _, rfl, _⟩ := spaced_of_build built
  refine ⟨event, begins, fun used => ?_⟩
  have opened : firstEvent { collecting with phase := .built transitions } = .ok event := begins
  rw [priceUsed, opened]
  rfl

/-- The price of what was used of a consumable section is that of its declared units one after another,
each priced on the ladder of its own blocks, and there is no line of another unit. Where there is no
price, arithmetic has failed or a block that is charged has no price in the currency. -/
theorem declared_units_priced (built : collecting.build closed = .ok interval)
    (consumable : interval.usage.usageType = .consumable)
    (known : ∀ name, interval.usage.policy ≠ .unknown name) (used : List RolledUnit) :
    ∃ event, interval.firstEvent = .ok event ∧
      (∀ lines, interval.priceUsed used = .ok lines ↔ ∃ each, lines = each.flatten ∧
        List.Forall₂ (interval.usage.PricesUnit event.currency)
          (used.filter fun rolled => decide (interval.usage.Declares rolled.unit)) each) ∧
      ∀ error, interval.priceUsed used = .error error → (∃ fault, error = .arithmetic fault) ∨
        ∃ rolled ∈ used, interval.usage.Declares rolled.unit ∧
          ∃ entry ∈ interval.usage.charged rolled, Assoc.get? event.currency entry.1.1.prices = none ∧
            error = .catalog (.noPrice event.currency (.block entry.1.1.unit entry.1.1.size)) := by
  obtain ⟨event, begins, priced⟩ := priceUsed_of_build built
  refine ⟨event, begins, fun lines => ?_, fun error failed => ?_⟩
  · rw [priced, Usage.price_eq_ok_iff consumable known]
  · rw [priced] at failed
    exact Usage.price_eq_error consumable known failed

end UsageInterval

namespace Calls

def texts (max price : Int) : TieredBlock := ⟨"texts", 20, max, [("USD", .ofInt price)], by decide⟩

def withTexts : UsageInterval :=
  { interval with usage := { usage with tiers :=
    [⟨[], [texts 1 3, block 2 1], []⟩, ⟨[], [block unlimited 2, texts unlimited 5], []⟩] } }

def threeUnits : List RolledUnit := [⟨"minutes", 25⟩, ⟨"data", 7⟩, ⟨"texts", 30⟩]

theorem withTexts_priced :
    ((withTexts.priceUsed threeUnits).map fun lines =>
        lines.map fun line => (line.tier, line.unit, line.quantity, line.amount)) =
      .ok [(1, .str "minutes", .int 2, .ofInt 2), (2, .str "minutes", .int 1, .ofInt 2),
        (1, .str "texts", .int 1, .ofInt 3), (2, .str "texts", .int 1, .ofInt 5)] ∧
      ∃ event, withTexts.firstEvent = .ok event ∧
        (∀ lines, withTexts.priceUsed threeUnits = .ok lines ↔ ∃ each, lines = each.flatten ∧
          List.Forall₂ (withTexts.usage.PricesUnit event.currency)
            (threeUnits.filter fun rolled => decide (withTexts.usage.Declares rolled.unit)) each) ∧
        ∀ error, withTexts.priceUsed threeUnits = .error error → (∃ fault, error = .arithmetic fault) ∨
          ∃ rolled ∈ threeUnits, withTexts.usage.Declares rolled.unit ∧
            ∃ entry ∈ withTexts.usage.charged rolled, Assoc.get? event.currency entry.1.1.prices = none ∧
              error = .catalog (.noPrice event.currency (.block entry.1.1.unit entry.1.1.size)) := by
  have built : UsageInterval.build { withTexts with phase := .collecting } false = .ok withTexts := by rfl
  exact ⟨by rfl, UsageInterval.declared_units_priced built rfl nofun threeUnits⟩

end Calls

end Arrears
