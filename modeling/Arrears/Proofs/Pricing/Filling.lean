import Arrears.Proofs.Pricing.Ladder

/-! Units charged at the tiers they fall in. What is charged covers the units with less than a block of
the last tier to spare, wherever some number of tiers suffices for them; otherwise it is the whole
ladder. -/

set_option autoImplicit false

namespace Arrears

theorem Decimal.mul_ofInt_of_finite {price : Decimal} (finite : price.isFinite = true) {n : Int}
    (inRange : price.mul (.ofInt n) ≠ .error .overflow) : ∃ amount, price.mul (.ofInt n) = .ok amount := by
  cases price with
  | finite negative coefficient exponent =>
    cases product : (Decimal.finite negative coefficient exponent).mul (.ofInt n) with
    | ok amount => exact ⟨amount, rfl⟩
    | error fault =>
      cases Context.finish_eq_error product
      exact absurd product inRange
  | infinite => cases finite
  | nan => cases finite

namespace Ladder

variable {blocks : List TieredBlock} {units last : Int} {lower tier : Nat} {block : TieredBlock}

def unitsIn (used : List (TieredBlock × Int)) : Int :=
  (used.map fun entry => entry.2 * (entry.1.size : Int)).sum

theorem unitsIn_filled (blocks : List TieredBlock) (lower : Nat) (block : TieredBlock) (last : Int) :
    unitsIn (filled blocks lower block last) = capacity blocks lower + last * block.size := by
  simp [unitsIn, filled, capacity, Function.comp_def]

theorem Suffices.le_length (enough : Suffices blocks units tier) : tier ≤ blocks.length := by
  cases tier with
  | zero => exact Nat.zero_le _
  | succ lower =>
    obtain ⟨block, standing, _⟩ := enough
    exact (List.getElem?_eq_some_iff.1 standing).1

theorem Fills.suffices (fills : Fills blocks units lower block last) (enough : Suffices blocks units tier) :
    Suffices blocks units (lower + 1) := by
  rcases fills.first.1 with found | highest
  · exact found
  · have := fills.first.2 (.inl enough)
    have := enough.le_length
    have top : lower + 1 = tier := by omega
    rwa [top]

/-- What is charged covers the units, with less than a block to spare. -/
theorem Fills.covers (fills : Fills blocks units lower block last)
    (enough : Suffices blocks units (lower + 1)) :
    units ≤ unitsIn (filled blocks lower block last) ∧
      unitsIn (filled blocks lower block last) < units + block.size := by
  obtain ⟨covered, least⟩ := fills.needed enough
  have held : units - capacity blocks lower ≤ last * block.size := covered
  have spare : ¬units - capacity blocks lower ≤ (last - 1) * block.size := fun fewer => by
    have := least fewer
    omega
  rw [sub_one_mul] at spare
  rw [unitsIn_filled]
  omega

theorem Fills.whole (fills : Fills blocks units lower block last) (never : ∀ tier, ¬Suffices blocks units tier) :
    filled blocks lower block last = blocks.map fun block => (block, block.max) := by
  have top : lower + 1 = blocks.length := fills.first.1.resolve_left (never _)
  have all : blocks = blocks.take lower ++ [block] := by
    have step : blocks.take (lower + 1) = blocks.take lower ++ [block] := by
      rw [List.take_add_one, fills.standing, Option.toList_some]
    rw [← step, top, List.take_length]
  rw [filled, fills.short (never _)]
  conv_rhs => rw [all]
  rw [List.map_append, List.map_singleton]

/-- Where every block has a finite price and no product is too large, units are charged at the tiers they
fall in: all blocks of the tiers below the last, and of the last the least number that covers what they
leave. Tiers that suffice are not exceeded by a block, and otherwise the whole ladder is charged. -/
theorem allTiers_fills {currency : String} (nonempty : blocks ≠ [])
    (priced : ∀ block ∈ blocks, ∃ price ∈ Assoc.get? currency block.prices, price.isFinite = true)
    (inRange : ∀ entry ∈ fill blocks units, ∀ price ∈ Assoc.get? currency entry.1.prices,
      price.mul (.ofInt entry.2) ≠ .error .overflow) :
    ∃ lower block last lines,
      Fills blocks units lower block last ∧
      allTiers blocks units currency = .ok lines ∧
      ChargesAll currency 1 (filled blocks lower block last) lines ∧
      ((∃ tier, Suffices blocks units tier) →
        units ≤ unitsIn (filled blocks lower block last) ∧
          unitsIn (filled blocks lower block last) < units + block.size) ∧
      ((∀ tier, ¬Suffices blocks units tier) →
        filled blocks lower block last = blocks.map fun block => (block, block.max)) := by
  obtain ⟨lower, block, last, fills, same⟩ := fill_eq_filled nonempty units
  have each : ∀ entry ∈ fill blocks units, ∀ tier, ∃ line, Charges currency tier entry.1 entry.2 line := by
    intro entry member tier
    obtain ⟨price, found, finite⟩ := priced entry.1 (mem_fill entry member)
    obtain ⟨amount, product⟩ := Decimal.mul_ofInt_of_finite finite (inRange entry member price found)
    exact ⟨_, price, amount, found, product, rfl⟩
  obtain ⟨lines, charged⟩ := exists_chargesAll each 1
  refine ⟨lower, block, last, lines, fills, chargeAll_eq_ok_iff.2 charged, ?_, ?_, fills.whole⟩
  · rwa [← same]
  · rintro ⟨tier, enough⟩
    exact fills.covers (fills.suffices enough)

theorem stepped_filled :
    stepped ≠ [] ∧
      (∀ block ∈ stepped, ∃ price ∈ Assoc.get? "USD" block.prices, price.isFinite = true) ∧
      (∀ entry ∈ fill stepped 33, ∀ price ∈ Assoc.get? "USD" entry.1.prices,
        price.mul (.ofInt entry.2) ≠ .error .overflow) ∧
      ∃ lower block last lines, Fills stepped 33 lower block last ∧
        allTiers stepped 33 "USD" = .ok lines ∧
        ChargesAll "USD" 1 (filled stepped lower block last) lines ∧
        33 ≤ unitsIn (filled stepped lower block last) ∧
        unitsIn (filled stepped lower block last) < 33 + block.size := by
  have nonempty : stepped ≠ [] := List.cons_ne_nil _ _
  have priced : ∀ block ∈ stepped, ∃ price ∈ Assoc.get? "USD" block.prices, price.isFinite = true := by
    decide
  have inRange : ∀ entry ∈ fill stepped 33, ∀ price ∈ Assoc.get? "USD" entry.1.prices,
      price.mul (.ofInt entry.2) ≠ .error .overflow := by
    decide
  obtain ⟨lower, block, last, lines, fills, charged, lined, covered, _⟩ :=
    allTiers_fills nonempty priced inRange
  have enough : ∃ tier, Suffices stepped 33 tier := ⟨3, _, rfl, .inl rfl⟩
  exact ⟨nonempty, priced, inRange, lower, block, last, lines, fills, charged, lined, covered enough⟩

end Ladder

end Arrears
