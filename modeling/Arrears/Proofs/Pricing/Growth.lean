import Arrears.Proofs.Decimal.Comparison
import Arrears.Proofs.Pricing.Ladder

/-! More units never cost less when they are charged at the tiers they fall in. Of each tier at least as
many blocks are used, and the tiers that are used beyond those before add nothing negative. -/

set_option autoImplicit false

namespace Arrears

def TieredBlock.worth (currency : String) (block : TieredBlock) : ℚ :=
  ((Assoc.get? currency block.prices).map Decimal.value).getD 0

namespace Ladder

variable {blocks : List TieredBlock} {units more : Int} {currency : String}
  {used wider : List (TieredBlock × Int)} {lines : List Line}

def costOf (currency : String) (entry : TieredBlock × Int) : ℚ := entry.1.worth currency * (entry.2 : ℚ)
def cost (currency : String) (used : List (TieredBlock × Int)) : ℚ := (used.map (costOf currency)).sum

/-- Of each tier no more blocks are used than in another use of the same tiers, which goes on with
further ones. -/
inductive Within : List (TieredBlock × Int) → List (TieredBlock × Int) → Prop where
  | done {wider : List (TieredBlock × Int)} (further : ∀ entry ∈ wider, 0 ≤ entry.2) : Within [] wider
  | tier {block : TieredBlock} {n most : Int} {used wider : List (TieredBlock × Int)} (fewer : n ≤ most)
      (within : Within used wider) : Within ((block, n) :: used) ((block, most) :: wider)

/-! ## How the use of a ladder grows -/

theorem fill_nonneg (bounded : ∀ block ∈ blocks, block.max = unlimited ∨ 0 ≤ block.max) (nonneg : 0 ≤ units) :
    ∀ entry ∈ fill blocks units, 0 ≤ entry.2 := by
  induction blocks generalizing units with
  | nil => exact List.forall_mem_nil _
  | cons block higher ih =>
    obtain ⟨bound, bounds⟩ := List.forall_mem_cons.1 bounded
    rw [fill_cons]
    split
    next exceeded =>
      have most := bound.resolve_left (TieredBlock.exceededBy_iff.1 exceeded).1
      exact List.forall_mem_cons.2 ⟨most, ih bounds (TieredBlock.leftOf_pos exceeded).le⟩
    next =>
      have some_units : ¬block.blocksFor units ≤ -1 := by
        have positive := block.size_positive
        rw [TieredBlock.blocksFor_le_iff]
        omega
      exact List.forall_mem_singleton.2 (by omega)

theorem fill_within (bounded : ∀ block ∈ blocks, block.max = unlimited ∨ 0 ≤ block.max)
    (order : units ≤ more) : Within (fill blocks units) (fill blocks more) := by
  induction blocks generalizing units more with
  | nil => exact .done (List.forall_mem_nil _)
  | cons block higher ih =>
    obtain ⟨bound, bounds⟩ := List.forall_mem_cons.1 bounded
    rw [fill_cons, fill_cons]
    by_cases exceeded : block.exceededBy (block.blocksFor units) = true
    · obtain ⟨limited, beyond⟩ := TieredBlock.exceededBy_iff.1 exceeded
      have also : block.exceededBy (block.blocksFor more) = true :=
        TieredBlock.exceededBy_iff.2 ⟨limited, beyond.trans_le order⟩
      rw [if_pos exceeded, if_pos also]
      exact .tier le_rfl (ih bounds (Int.sub_le_sub_right order _))
    · rw [if_neg exceeded]
      split
      next beyond =>
        -- the tier takes all the fewer units, so they need no more than its blocks
        have limited := (TieredBlock.exceededBy_iff.1 beyond).1
        have fewer : block.blocksFor units ≤ block.max := by
          rw [TieredBlock.exceededBy_iff, not_and, not_lt] at exceeded
          exact TieredBlock.blocksFor_le_iff.2 (exceeded limited)
        exact .tier fewer (.done (fill_nonneg bounds (TieredBlock.leftOf_pos beyond).le))
      next =>
        have fewer := TieredBlock.blocksFor_le_iff.2 (order.trans (block.isLeast_blocksFor more).1)
        exact .tier fewer (.done (List.forall_mem_nil _))

theorem Within.length_le (within : Within used wider) : used.length ≤ wider.length := by
  induction within with
  | done => exact Nat.zero_le _
  | tier _ _ ih => exact Nat.succ_le_succ ih

theorem Within.at_place (within : Within used wider) {place : Nat} {block : TieredBlock} {n : Int}
    (stands : used[place]? = some (block, n)) : ∃ most, wider[place]? = some (block, most) ∧ n ≤ most := by
  induction within generalizing place with
  | done => cases stands
  | tier fewer _ ih =>
    cases place with
    | zero => cases stands; exact ⟨_, rfl, fewer⟩
    | succ place => exact ih stands

theorem Within.cost_le (within : Within used wider) (worth : ∀ entry ∈ wider, 0 ≤ entry.1.worth currency) :
    cost currency used ≤ cost currency wider := by
  induction within with
  | done further =>
    refine List.sum_nonneg fun due member => ?_
    obtain ⟨entry, among, rfl⟩ := List.mem_map.1 member
    exact mul_nonneg (worth entry among) (Int.cast_nonneg (further entry among))
  | tier fewer _ ih =>
    obtain ⟨first, others⟩ := List.forall_mem_cons.1 worth
    have rest := ih others
    have step := mul_le_mul_of_nonneg_left (Int.cast_le (R := ℚ).2 fewer) first
    simp only [cost, List.map_cons, List.sum_cons, costOf] at rest ⊢
    linarith

/-! ## What exact lines come to -/

/-- The products of the blocks used with their prices leave nothing to round, and neither does their sum. -/
def Unrounded (currency : String) (used : List (TieredBlock × Int)) : Prop :=
  ∃ places ≤ 20,
    (∀ entry ∈ used, ∀ price ∈ Assoc.get? currency entry.1.prices,
      Decimal.Gives places (price.mul (.ofInt entry.2)) (price.value * entry.2)) ∧
    (used.map fun entry => |costOf currency entry|).sum < 10 ^ (27 - places)

theorem unrounded_of_places {places : Nat} (few : places ≤ 20)
    (placed : ∀ entry ∈ used, ∀ price ∈ Assoc.get? currency entry.1.prices, price.HasPlaces places)
    (room : (used.map fun entry => |costOf currency entry|).sum < 10 ^ (27 - places)) :
    Unrounded currency used := by
  refine ⟨places, few, fun entry member price found => ?_, room⟩
  have due : costOf currency entry = price.value * entry.2 := by
    rw [costOf, TieredBlock.worth, Option.mem_def.1 found, Option.map_some, Option.getD_some]
  have part : |costOf currency entry| ≤ (used.map fun entry => |costOf currency entry|).sum := by
    refine List.single_le_sum (fun size among => ?_) _ (List.mem_map_of_mem member)
    obtain ⟨other, _, rfl⟩ := List.mem_map.1 among
    exact abs_nonneg _
  refine Decimal.mul_ofInt_gives few (placed entry member price found) entry.2 ?_
  rw [← due]
  exact (part.trans_lt room).trans (Decimal.lt_room few)

theorem ChargesAll.amounts_give {tier places : Nat} (charged : ChargesAll currency tier used lines)
    (products : ∀ entry ∈ used, ∀ price ∈ Assoc.get? currency entry.1.prices,
      Decimal.Gives places (price.mul (.ofInt entry.2)) (price.value * entry.2)) :
    (∀ amount ∈ lines.map Line.amount, amount.HasPlaces places) ∧
      (lines.map Line.amount).map Decimal.value = used.map (costOf currency) := by
  induction used generalizing tier lines with
  | nil =>
    rw [List.forall₂_nil_left_iff.1 charged]
    exact ⟨List.forall_mem_nil _, rfl⟩
  | cons entry used ih =>
    rw [ChargesAll, List.zipIdx_cons, List.forall₂_cons_left_iff] at charged
    obtain ⟨line, others, ⟨price, amount, found, product, rfl⟩, more, rfl⟩ := charged
    obtain ⟨first, rest⟩ := List.forall_mem_cons.1 products
    obtain ⟨placed, values⟩ := ih more rest
    obtain ⟨exact_amount, same, amount_placed, amount_value⟩ := first price found
    cases product.symm.trans same
    refine ⟨List.forall_mem_cons.2 ⟨amount_placed, placed⟩, ?_⟩
    simp only [List.map_cons, values, amount_value, costOf, TieredBlock.worth, found, Option.map_some,
      Option.getD_some]

theorem Unrounded.total_gives (unrounded : Unrounded currency used)
    (priced : ∀ entry ∈ used, ∃ price, Assoc.get? currency entry.1.prices = some price) :
    ∃ lines, ChargesAll currency 1 used lines ∧ Decimal.Gives 20 (Line.total lines) (cost currency used) := by
  obtain ⟨places, few, products, room⟩ := unrounded
  have each : ∀ entry ∈ used, ∀ tier, ∃ line, Charges currency tier entry.1 entry.2 line := by
    intro entry member tier
    obtain ⟨price, found⟩ := priced entry member
    obtain ⟨amount, product, _⟩ := products entry member price found
    exact ⟨_, price, amount, found, product, rfl⟩
  obtain ⟨lines, charged⟩ := exists_chargesAll each 1
  obtain ⟨placed, values⟩ := charged.amounts_give products
  have sizes : Decimal.size (lines.map Line.amount) =
      (used.map fun entry => |costOf currency entry|).sum := by
    have absolute := congrArg (fun values : List ℚ => (values.map fun value => |value|).sum) values
    simpa only [Decimal.size, List.map_map, Function.comp_def] using absolute
  have small : Decimal.size (lines.map Line.amount) < 10 ^ (28 - places) := by
    rw [sizes]
    exact room.trans (Decimal.lt_room few)
  obtain ⟨total, summed, total_placed, value⟩ := Decimal.sum_gives few placed small
  refine ⟨lines, charged, total, summed, total_placed.mono few, ?_⟩
  rw [value, Decimal.total, values, cost]

/-- More units are charged at no fewer tiers, with no fewer blocks of each tier and at no lower price in
all, if no price is negative and nothing is rounded. -/
theorem allTiers_grow (bounded : ∀ block ∈ blocks, block.max = unlimited ∨ 0 ≤ block.max)
    (priced : ∀ block ∈ blocks, ∃ price ∈ Assoc.get? currency block.prices,
      price.isFinite = true ∧ 0 ≤ price.value)
    (order : units ≤ more) (exact_fewer : Unrounded currency (fill blocks units))
    (exact_more : Unrounded currency (fill blocks more)) :
    ∃ (lines others : List Line) (total larger : Decimal),
      allTiers blocks units currency = .ok lines ∧ allTiers blocks more currency = .ok others ∧
      Line.total lines = .ok total ∧ Line.total others = .ok larger ∧ total.le larger = .ok true ∧
      lines.length ≤ others.length ∧
      ∀ (place : Nat) (line : Line), lines[place]? = some line → ∃ (other : Line) (n most : Int),
        others[place]? = some other ∧ line.tier = other.tier ∧
        line.quantity = .int n ∧ other.quantity = .int most ∧ n ≤ most := by
  have found (units : Int) : ∀ entry ∈ fill blocks units, ∃ price,
      Assoc.get? currency entry.1.prices = some price := fun entry member => by
    obtain ⟨price, found, _⟩ := priced entry.1 (mem_fill entry member)
    exact ⟨price, found⟩
  have worth : ∀ entry ∈ fill blocks more, 0 ≤ entry.1.worth currency := fun entry member => by
    obtain ⟨price, found, _, nonneg⟩ := priced entry.1 (mem_fill entry member)
    rw [TieredBlock.worth, found]
    exact nonneg
  have within := fill_within bounded order
  obtain ⟨lines, charged, total, summed, placed, value⟩ := exact_fewer.total_gives (found units)
  obtain ⟨others, charged_more, larger, summed_more, placed_more, value_more⟩ :=
    exact_more.total_gives (found more)
  refine ⟨lines, others, total, larger, chargeAll_eq_ok_iff.2 charged, chargeAll_eq_ok_iff.2 charged_more,
    summed, summed_more, ?_, ?_, ?_⟩
  · rw [Decimal.le_eq placed placed_more, value, value_more, decide_eq_true (within.cost_le worth)]
  · rw [charged.length_eq, charged_more.length_eq]
    exact within.length_le
  · intro place line stands
    have below : place < (fill blocks units).length := by
      rw [← charged.length_eq]
      exact (List.getElem?_eq_some_iff.1 stands).1
    obtain ⟨same, at_place, price, amount, _, _, rfl⟩ := charged.line_at (List.getElem?_eq_getElem below)
    cases stands.symm.trans at_place
    obtain ⟨most, wider, fewer⟩ := within.at_place (List.getElem?_eq_getElem below)
    obtain ⟨other, at_other, price', amount', _, _, rfl⟩ := charged_more.line_at wider
    exact ⟨_, _, most, at_other, rfl, rfl, rfl, fewer⟩

theorem stepped_grown :
    (∀ block ∈ stepped, block.max = unlimited ∨ 0 ≤ block.max) ∧
      (∀ block ∈ stepped, ∃ price ∈ Assoc.get? "USD" block.prices, price.isFinite = true ∧ 0 ≤ price.value) ∧
      (-15 : Int) ≤ 33 ∧ Unrounded "USD" (fill stepped (-15)) ∧ Unrounded "USD" (fill stepped 33) ∧
      ∃ (lines others : List Line) (total larger : Decimal),
        allTiers stepped (-15) "USD" = .ok lines ∧ allTiers stepped 33 "USD" = .ok others ∧
        Line.total lines = .ok total ∧ Line.total others = .ok larger ∧ total.le larger = .ok true ∧
        lines.length ≤ others.length := by
  have bounded : ∀ block ∈ stepped, block.max = unlimited ∨ 0 ≤ block.max := by decide
  have priced : ∀ block ∈ stepped, ∃ price ∈ Assoc.get? "USD" block.prices,
      price.isFinite = true ∧ 0 ≤ price.value := by
    simp [stepped, Assoc.get?, Decimal.isFinite, Decimal.value, Decimal.signed]
  have few : Unrounded "USD" (fill stepped (-15)) := by
    refine unrounded_of_places (by norm_num : 2 ≤ 20) (by decide) ?_
    have filled : fill stepped (-15) = [(stepped[0], -1)] := rfl
    rw [filled]
    norm_num [stepped, costOf, TieredBlock.worth, Assoc.get?, Decimal.value, Decimal.signed]
  have many : Unrounded "USD" (fill stepped 33) := by
    refine unrounded_of_places (by norm_num : 2 ≤ 20) (by decide) ?_
    have filled : fill stepped 33 = [(stepped[0], (2 : Int)), (stepped[1], 0), (stepped[2], 2)] := rfl
    rw [filled]
    norm_num [stepped, costOf, TieredBlock.worth, Assoc.get?, Decimal.value, Decimal.signed]
  obtain ⟨lines, others, total, larger, charged, charged_more, summed, summed_more, less, longer, _⟩ :=
    allTiers_grow bounded priced (by decide) few many
  exact ⟨bounded, priced, by decide, few, many, lines, others, total, larger, charged, charged_more, summed,
    summed_more, less, longer⟩

end Ladder

end Arrears
