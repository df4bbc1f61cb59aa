import Arrears.Pricing.Ladder
import Arrears.Proofs.Outcome
import Mathlib.Algebra.Order.Ring.Int
import Mathlib.Order.Bounds.Basic

/-! How units fill a ladder. A tier needs the least number of blocks that covers the units, and it is
exceeded just when all its blocks do not cover them. So the ladder is filled up to the first tier that
takes what the lower ones leave, which is the tier that the last unit lands in. -/

set_option autoImplicit false

namespace Arrears

namespace TieredBlock

variable {block : TieredBlock} {units blocks : Int}

theorem size_positive (block : TieredBlock) : (0 : Int) < block.size := Int.natCast_pos.2 block.size_pos

theorem blocksFor_le_iff : block.blocksFor units ≤ blocks ↔ units ≤ blocks * block.size := by
  have positive := block.size_positive
  unfold blocksFor
  split
  next whole =>
    have full : units = units / block.size * block.size := (Int.ediv_mul_cancel_of_emod_eq_zero whole).symm
    constructor
    · intro within
      rw [full]
      exact Int.mul_le_mul_of_nonneg_right (by omega) positive.le
    · intro covered
      rw [full] at covered
      have := Int.le_of_mul_le_mul_right covered positive
      omega
  next broken =>
    -- the last block is begun, so that all of it together are not what the units come to
    have apart : units ≠ blocks * block.size := fun same => broken (by rw [same, Int.mul_emod_left])
    rw [Int.add_one_le_iff, Int.ediv_lt_iff_lt_mul positive]
    omega

/-- The blocks needed are the least number that covers the units. -/
theorem isLeast_blocksFor (block : TieredBlock) (units : Int) :
    IsLeast {blocks : Int | units ≤ blocks * block.size} (block.blocksFor units) :=
  ⟨blocksFor_le_iff.1 le_rfl, fun _ covered => blocksFor_le_iff.2 covered⟩

theorem blocksFor_eq_iff :
    block.blocksFor units = blocks ↔ units ≤ blocks * block.size ∧ (blocks - 1) * block.size < units := by
  rw [← blocksFor_le_iff, ← not_le, ← blocksFor_le_iff]
  omega

theorem exceededBy_iff :
    block.exceededBy (block.blocksFor units) = true ↔
      block.max ≠ unlimited ∧ block.max * block.size < units := by
  rw [exceededBy, Bool.and_eq_true, bne_iff_ne, decide_eq_true_eq, ← not_le, blocksFor_le_iff, not_le]

theorem leftOf_pos (exceeded : block.exceededBy (block.blocksFor units) = true) :
    0 < block.leftOf units :=
  Int.sub_pos_of_lt (exceededBy_iff.1 exceeded).2

end TieredBlock

namespace Ladder

variable {blocks higher : List TieredBlock} {block upper : TieredBlock} {units last : Int}
  {tier lower : Nat}

/-- Only a tier that is exceeded hands anything on, and then it hands on what it leaves. -/
theorem fill_cons (block : TieredBlock) (higher : List TieredBlock) (units : Int) :
    fill (block :: higher) units =
      if block.exceededBy (block.blocksFor units) then (block, block.max) :: fill higher (block.leftOf units)
      else [(block, block.blocksFor units)] := by
  by_cases exceeded : block.exceededBy (block.blocksFor units) = true
  · have left := TieredBlock.leftOf_pos exceeded
    simp [fill, exceeded, Int.not_le.2 left]
  · simp [fill, exceeded]

theorem mem_fill {units : Int} : ∀ entry ∈ fill blocks units, entry.1 ∈ blocks := by
  induction blocks generalizing units with
  | nil => exact List.forall_mem_nil _
  | cons block higher ih =>
    intro entry member
    rw [fill_cons] at member
    split at member
    · rcases List.mem_cons.1 member with rfl | member
      · exact List.mem_cons_self
      · exact List.mem_cons_of_mem _ (ih entry member)
    · cases List.mem_singleton.1 member
      exact List.mem_cons_self

/-- The last unit lands in the last tier that is filled. -/
theorem landing_eq (blocks : List TieredBlock) (units : Int) :
    landing blocks units =
      (fill blocks units).getLast?.map fun entry => ((fill blocks units).length, entry.1) := by
  induction blocks generalizing units with
  | nil => rfl
  | cons block higher ih =>
    rw [landing, ih, fill_cons]
    cases block.exceededBy (block.blocksFor units) with
    | false => rfl
    | true =>
      rw [if_pos rfl, if_pos rfl, List.getLast?_cons, List.length_cons]
      cases above : (fill higher (block.leftOf units)).getLast? with
      | none =>
        rw [List.getLast?_eq_none_iff.1 above]
        rfl
      | some top => rfl

theorem mem_landing {units : Int} (landed : landing blocks units = some (tier, block)) : block ∈ blocks := by
  rw [landing_eq, Option.map_eq_some_iff] at landed
  obtain ⟨entry, top, same⟩ := landed
  cases same
  exact mem_fill entry (List.mem_of_getLast? top)

def capacity (blocks : List TieredBlock) (tiers : Nat) : Int :=
  ((blocks.take tiers).map fun block => block.max * (block.size : Int)).sum

/-- Whether a number of tiers suffices for the units: the last of them has no end, or together they
hold the units. -/
def Suffices (blocks : List TieredBlock) (units : Int) : Nat → Prop
  | 0 => False
  | lower + 1 => ∃ block ∈ blocks[lower]?, block.max = unlimited ∨ units ≤ capacity blocks (lower + 1)

theorem capacity_cons (block : TieredBlock) (higher : List TieredBlock) (tiers : Nat) :
    capacity (block :: higher) (tiers + 1) = block.max * block.size + capacity higher tiers := by
  rw [capacity, List.take_succ_cons, List.map_cons, List.sum_cons, capacity]

theorem suffices_cons (exceeded : block.exceededBy (block.blocksFor units) = true) :
    Suffices (block :: higher) units (tier + 1) ↔ Suffices higher (block.leftOf units) tier := by
  obtain ⟨bounded, beyond⟩ := TieredBlock.exceededBy_iff.1 exceeded
  cases tier with
  | zero => simp [Suffices, capacity, bounded, beyond]
  | succ lower =>
    have held : units ≤ block.max * block.size + capacity higher (lower + 1) ↔
        block.leftOf units ≤ capacity higher (lower + 1) := by
      rw [TieredBlock.leftOf]
      omega
    simp only [Suffices, List.getElem?_cons_succ, capacity_cons, held]

/-- How a ladder is filled: which tiers are full, the tier above them, and how many blocks of it are
used. That tier is the first up to which the ladder suffices, and the highest if none does. -/
structure Fills (blocks : List TieredBlock) (units : Int) (lower : Nat) (block : TieredBlock)
    (last : Int) : Prop where
  standing : blocks[lower]? = some block
  first : IsLeast {tier | Suffices blocks units tier ∨ tier = blocks.length} (lower + 1)
  needed : Suffices blocks units (lower + 1) →
    IsLeast {n : Int | units - capacity blocks lower ≤ n * block.size} last
  short : ¬Suffices blocks units (lower + 1) → last = block.max

def filled (blocks : List TieredBlock) (lower : Nat) (block : TieredBlock) (last : Int) :
    List (TieredBlock × Int) :=
  (blocks.take lower).map (fun block => (block, block.max)) ++ [(block, last)]

theorem Fills.length_filled (fills : Fills blocks units lower block last) :
    (filled blocks lower block last).length = lower + 1 := by
  have below := (List.getElem?_eq_some_iff.1 fills.standing).1
  rw [filled, List.length_append, List.length_map, List.length_take, Nat.min_eq_left below.le,
    List.length_singleton]

theorem Fills.filled_at (fills : Fills blocks units lower block last) :
    (filled blocks lower block last)[lower]? = some (block, last) := by
  have ends : (filled blocks lower block last).getLast? = some (block, last) := List.getLast?_concat
  rwa [List.getLast?_eq_getElem?, fills.length_filled, Nat.add_sub_cancel] at ends

theorem suffices_one :
    Suffices (block :: higher) units 1 ↔ block.exceededBy (block.blocksFor units) = false := by
  rw [← Bool.not_eq_true, TieredBlock.exceededBy_iff, not_and_or, not_not, not_lt]
  simp [Suffices, capacity]

theorem fills_within (within : block.exceededBy (block.blocksFor units) = false) :
    Fills (block :: higher) units 0 block (block.blocksFor units) where
  standing := rfl
  first := by
    refine ⟨.inl (suffices_one.2 within), ?_⟩
    rintro tier (enough | rfl)
    · cases tier with
      | zero => exact enough.elim
      | succ tier => omega
    · simp
  needed _ := by
    have whole : units - capacity (block :: higher) 0 = units := Int.sub_zero units
    rw [whole]
    exact block.isLeast_blocksFor units
  short never := absurd (suffices_one.2 within) never

theorem fills_highest (exceeded : block.exceededBy (block.blocksFor units) = true) :
    Fills [block] units 0 block block.max where
  standing := rfl
  first := by
    refine ⟨.inr rfl, ?_⟩
    rintro tier (enough | rfl)
    · cases tier with
      | zero => exact enough.elim
      | succ tier => omega
    · exact le_rfl
  needed enough := by
    rw [suffices_one.1 enough] at exceeded
    cases exceeded
  short _ := rfl

theorem Fills.above (fills : Fills higher (block.leftOf units) lower upper last)
    (exceeded : block.exceededBy (block.blocksFor units) = true) :
    Fills (block :: higher) units (lower + 1) upper last where
  standing := fills.standing
  first := by
    refine ⟨fills.first.1.imp (suffices_cons exceeded).2 (congrArg Nat.succ), ?_⟩
    rintro tier (enough | rfl)
    · cases tier with
      | zero => exact enough.elim
      | succ tier => exact Nat.succ_le_succ (fills.first.2 (.inl ((suffices_cons exceeded).1 enough)))
    · exact Nat.succ_le_succ (fills.first.2 (.inr rfl))
  needed enough := by
    have left : units - capacity (block :: higher) (lower + 1) = block.leftOf units - capacity higher lower := by
      rw [capacity_cons, TieredBlock.leftOf]
      omega
    rw [left]
    exact fills.needed ((suffices_cons exceeded).1 enough)
  short never := fills.short fun enough => never ((suffices_cons exceeded).2 enough)

/-- Units fill a ladder tier by tier. -/
theorem fill_eq_filled (nonempty : blocks ≠ []) (units : Int) :
    ∃ lower block last, Fills blocks units lower block last ∧
      fill blocks units = filled blocks lower block last := by
  induction blocks generalizing units with
  | nil => exact absurd rfl nonempty
  | cons block higher ih =>
    rw [fill_cons]
    cases exceeded : block.exceededBy (block.blocksFor units) with
    | false => exact ⟨0, block, _, fills_within exceeded, rfl⟩
    | true =>
      cases higher with
      | nil => exact ⟨0, block, _, fills_highest exceeded, rfl⟩
      | cons next above =>
        obtain ⟨lower, upper, last, fills, same⟩ := ih (List.cons_ne_nil next above) (block.leftOf units)
        refine ⟨lower + 1, upper, last, fills.above exceeded, ?_⟩
        rw [if_pos rfl, same]
        rfl

/-! ## Charging what is used -/

variable {currency : String} {n : Int} {line : Line} {used : List (TieredBlock × Int)} {lines : List Line}

/-- The line of a tier: so many of its blocks, each at the price of the currency. -/
def Charges (currency : String) (tier : Nat) (block : TieredBlock) (n : Int) (line : Line) : Prop :=
  ∃ price amount, Assoc.get? currency block.prices = some price ∧ price.mul (.ofInt n) = .ok amount ∧
    line = ⟨tier, .str block.unit, some price, .int n, amount, none, .null⟩

/-- One line for each tier that is used, the tiers counted on from the first of them. -/
def ChargesAll (currency : String) (tier : Nat) (used : List (TieredBlock × Int)) (lines : List Line) :
    Prop :=
  List.Forall₂ (fun entry line => Charges currency entry.2 entry.1.1 entry.1.2 line) (used.zipIdx tier) lines

theorem charge_eq_ok_iff : charge currency tier block n = .ok line ↔ Charges currency tier block n line := by
  constructor
  · intro charged
    obtain ⟨price, found, rest⟩ := bind_eq_ok.1 charged
    obtain ⟨amount, multiplied, same⟩ := bind_eq_ok.1 (mapError_eq_ok.1 rest)
    have priced := priceFor_eq_ok.1 (mapError_eq_ok.1 found)
    exact ⟨price, amount, priced, multiplied, (Except.ok.inj same).symm⟩
  · rintro ⟨price, amount, found, multiplied, rfl⟩
    refine bind_eq_ok.2 ⟨price, mapError_eq_ok.2 (priceFor_eq_ok.2 found), ?_⟩
    exact mapError_eq_ok.2 (bind_eq_ok.2 ⟨amount, multiplied, rfl⟩)

theorem chargeAll_eq_ok_iff : chargeAll currency tier used = .ok lines ↔ ChargesAll currency tier used lines := by
  induction used generalizing tier lines with
  | nil =>
    rw [ChargesAll, List.zipIdx_nil, List.forall₂_nil_left_iff]
    exact ⟨fun same => (Except.ok.inj same).symm, fun same => by rw [same]; rfl⟩
  | cons entry used ih =>
    rw [ChargesAll, List.zipIdx_cons, List.forall₂_cons_left_iff]
    constructor
    · intro charged
      obtain ⟨line, one, rest⟩ := bind_eq_ok.1 charged
      obtain ⟨others, more, same⟩ := bind_eq_ok.1 rest
      exact ⟨line, others, charge_eq_ok_iff.1 one, ih.1 more, (Except.ok.inj same).symm⟩
    · rintro ⟨line, others, one, more, rfl⟩
      exact bind_eq_ok.2 ⟨line, charge_eq_ok_iff.2 one, bind_eq_ok.2 ⟨others, ih.2 more, rfl⟩⟩

theorem ChargesAll.length_eq (charged : ChargesAll currency tier used lines) : lines.length = used.length := by
  rw [← List.Forall₂.length_eq charged, List.length_zipIdx]

theorem ChargesAll.line_at (charged : ChargesAll currency tier used lines) {place : Nat}
    {entry : TieredBlock × Int} (stands : used[place]? = some entry) :
    ∃ line, lines[place]? = some line ∧ Charges currency (tier + place) entry.1 entry.2 line := by
  induction used generalizing tier lines place with
  | nil => cases stands
  | cons first used ih =>
    rw [ChargesAll, List.zipIdx_cons, List.forall₂_cons_left_iff] at charged
    obtain ⟨line, others, one, more, rfl⟩ := charged
    cases place with
    | zero => cases stands; exact ⟨line, rfl, one⟩
    | succ place =>
      obtain ⟨line, stands, one⟩ := ih more stands
      rw [Nat.add_right_comm] at one
      exact ⟨line, stands, one⟩

theorem ChargesAll.quantities (charged : ChargesAll currency tier used lines) :
    lines.map Line.quantity = (used.map Prod.snd).map Json.int := by
  induction used generalizing tier lines with
  | nil =>
    rw [List.forall₂_nil_left_iff.1 charged]
    rfl
  | cons first used ih =>
    rw [ChargesAll, List.zipIdx_cons, List.forall₂_cons_left_iff] at charged
    obtain ⟨line, others, ⟨_, _, _, _, rfl⟩, more, rfl⟩ := charged
    rw [List.map_cons, ih more, List.map_cons, List.map_cons]

theorem exists_chargesAll (each : ∀ entry ∈ used, ∀ tier, ∃ line, Charges currency tier entry.1 entry.2 line)
    (tier : Nat) : ∃ lines, ChargesAll currency tier used lines := by
  induction used generalizing tier with
  | nil => exact ⟨[], .nil⟩
  | cons entry used ih =>
    obtain ⟨first, others⟩ := List.forall_mem_cons.1 each
    obtain ⟨line, one⟩ := first tier
    obtain ⟨lines, more⟩ := ih others (tier + 1)
    exact ⟨line :: lines, .cons one more⟩

def stepped : List TieredBlock :=
  [⟨"minutes", 12, 2, [("USD", .finite false 150 (-2))], by decide⟩,
    ⟨"minutes", 4, 0, [("USD", .finite false 9 0)], by decide⟩,
    ⟨"minutes", 6, unlimited, [("USD", .finite false 75 (-2))], by decide⟩]

end Ladder

end Arrears
