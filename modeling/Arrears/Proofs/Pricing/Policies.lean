import Arrears.Proofs.Pricing.Filling

/-! The two policies of a section with blocks. Charged by the tier they fall in or all at one, units land
in the same tier. Where all blocks have one size and that tier takes what is left, both charge the same
number of blocks. -/

set_option autoImplicit false

namespace Arrears.Ladder

variable {blocks : List TieredBlock} {units last : Int} {lower : Nat} {block : TieredBlock}
  {currency : String} {lines : List Line} {line : Line}

theorem capacity_succ (standing : blocks[lower]? = some block) :
    capacity blocks (lower + 1) = capacity blocks lower + block.max * block.size := by
  rw [capacity, List.take_add_one, standing, Option.toList_some, List.map_append, List.sum_append,
    List.map_singleton, List.sum_singleton, capacity]

/-- A number of tiers suffices where the last of them takes what the lower ones leave. -/
theorem suffices_of_least (standing : blocks[lower]? = some block)
    (taken : block.max = unlimited ∨
      ∃ needed, IsLeast {n : Int | units - capacity blocks lower ≤ n * block.size} needed ∧ needed ≤ block.max) :
    Suffices blocks units (lower + 1) := by
  refine ⟨block, standing, taken.imp id ?_⟩
  rintro ⟨needed, ⟨covered, _⟩, within⟩
  have held : units - capacity blocks lower ≤ needed * block.size := covered
  have most := Int.mul_le_mul_of_nonneg_right within block.size_positive.le
  rw [capacity_succ standing]
  omega

theorem unitsIn_of_size {used : List (TieredBlock × Int)} {size : Nat}
    (same : ∀ entry ∈ used, entry.1.size = size) : unitsIn used = (used.map Prod.snd).sum * size := by
  induction used with
  | nil => simp [unitsIn]
  | cons entry used ih =>
    obtain ⟨first, others⟩ := List.forall_mem_cons.1 same
    have rest := ih others
    rw [unitsIn] at rest ⊢
    rw [List.map_cons, List.sum_cons, rest, first, List.map_cons, List.sum_cons, add_mul]

theorem Fills.sum_eq (fills : Fills blocks units lower block last)
    (same : ∀ entry ∈ filled blocks lower block last, entry.1.size = block.size)
    (enough : Suffices blocks units (lower + 1)) :
    ((filled blocks lower block last).map Prod.snd).sum = block.blocksFor units := by
  obtain ⟨covered, spare⟩ := fills.covers enough
  rw [unitsIn_of_size same] at covered spare
  refine (TieredBlock.blocksFor_eq_iff.2 ⟨covered, ?_⟩).symm
  rw [sub_one_mul]
  omega

theorem topTier?_eq (fills : Fills blocks units lower block last)
    (same : fill blocks units = filled blocks lower block last) :
    topTier? blocks units currency = some (charge currency (lower + 1) block (block.blocksFor units)) := by
  have top : (filled blocks lower block last).getLast? = some (block, last) := by
    rw [filled, List.getLast?_concat]
  rw [topTier?, landing_eq, same, top, fills.length_filled]
  rfl

/-- Where both policies give a price, the one line of the policy for all units has the tier, unit and price
of the last line of the other. It charges the least number of blocks of that tier that covers the
units, and with blocks of one size the other charges as many, unless that tier is exceeded. -/
theorem policies_land_together (byTier : allTiers blocks units currency = .ok lines)
    (atOne : topTier? blocks units currency = some (.ok line)) :
    ∃ lower block last quantity,
      lines.length = lower + 1 ∧ lines.getLast? = some last ∧ blocks[lower]? = some block ∧
      line.tier = (lower + 1 : Nat) ∧
      (line.tier = last.tier ∧ line.unit = last.unit ∧ line.price = last.price) ∧
      line.quantity = .int quantity ∧ IsLeast {n : Int | units ≤ n * block.size} quantity ∧
      ((∀ other ∈ blocks, other.size = block.size) →
        (block.max = unlimited ∨ ∃ needed,
          IsLeast {n : Int | units - capacity blocks lower ≤ n * block.size} needed ∧ needed ≤ block.max) →
        ∃ charged : List Int, lines.map Line.quantity = charged.map Json.int ∧ charged.sum = quantity) := by
  have nonempty : blocks ≠ [] := by
    rintro rfl
    cases atOne
  obtain ⟨lower, block, top, fills, same⟩ := fill_eq_filled nonempty units
  rw [topTier?_eq fills same] at atOne
  rw [allTiers, same] at byTier
  have charged := chargeAll_eq_ok_iff.1 byTier
  have count : lines.length = lower + 1 := by rw [charged.length_eq, fills.length_filled]
  obtain ⟨last, at_last, price, amount, found, _, ended⟩ := charged.line_at fills.filled_at
  obtain ⟨other, due, at_block, _, landed⟩ := charge_eq_ok_iff.1 (Option.some.inj atOne)
  have one_price : other = price := Option.some.inj (at_block.symm.trans found)
  refine ⟨lower, block, last, block.blocksFor units, count, ?_, fills.standing, by rw [landed], ?_,
    by rw [landed], block.isLeast_blocksFor units, fun one taken => ⟨_, charged.quantities, ?_⟩⟩
  · rw [List.getLast?_eq_getElem?, count, Nat.add_sub_cancel]
    exact at_last
  · rw [landed, ended, one_price, Nat.add_comm]
    exact ⟨rfl, rfl, rfl⟩
  · refine fills.sum_eq (fun entry member => ?_) (suffices_of_least fills.standing taken)
    rw [← same] at member
    exact one entry.1 (mem_fill entry member)

def evenly : List TieredBlock :=
  [⟨"minutes", 15, 2, [("USD", .finite false 150 (-2))], by decide⟩,
    ⟨"minutes", 15, 3, [("USD", .finite false 125 (-2))], by decide⟩]

theorem evenly_landed :
    ∃ lines line last, allTiers evenly 35 "USD" = .ok lines ∧ topTier? evenly 35 "USD" = some (.ok line) ∧
      lines.getLast? = some last ∧ line.tier = last.tier ∧ line.unit = last.unit ∧ line.price = last.price ∧
      ∃ charged : List Int, lines.map Line.quantity = charged.map Json.int ∧
        line.quantity = .int charged.sum := by
  have byTier : allTiers evenly 35 "USD" = .ok
      [⟨1, .str "minutes", some (.finite false 150 (-2)), .int 2, .finite false 300 (-2), none, .null⟩,
        ⟨2, .str "minutes", some (.finite false 125 (-2)), .int 1, .finite false 125 (-2), none, .null⟩] := rfl
  have atOne : topTier? evenly 35 "USD" = some (.ok
      ⟨2, .str "minutes", some (.finite false 125 (-2)), .int 3, .finite false 375 (-2), none, .null⟩) := rfl
  obtain ⟨lower, block, last, quantity, count, ends, standing, _, ⟨tier, unit, price⟩, charges, _, together⟩ :=
    policies_land_together byTier atOne
  cases Nat.succ.inj count
  cases standing
  have one : ∀ other ∈ evenly, other.size = 15 := by decide
  have needed : IsLeast {n : Int | 35 - capacity evenly 1 ≤ n * 15} 1 := by
    refine ⟨by decide, fun n covered => ?_⟩
    have held : (35 : Int) - 2 * 15 ≤ n * 15 := covered
    omega
  obtain ⟨charged, quantities, same⟩ := together one (.inr ⟨1, needed, by decide⟩)
  exact ⟨_, _, last, byTier, atOne, ends, tier, unit, price, charged, quantities, same ▸ charges⟩

end Arrears.Ladder
