import Arrears.Catalog.Basic

/-! Questions to a usage section: its tiers, its units, and the ladder of blocks of one unit. -/

set_option autoImplicit false

namespace Arrears

/-- Names without repetition, in the order of their code points. -/
def sortedNames (names : List String) : List String :=
  names.eraseDups.mergeSort Text.precedes

theorem mem_sortedNames {name : String} {names : List String} : name ∈ sortedNames names ↔ name ∈ names := by
  rw [sortedNames, List.mem_mergeSort, List.mem_eraseDups]

namespace Usage

def capacityTiers (usage : Usage) : Except CatalogFault (List Tier) :=
  if usage.usageType ≠ .capacity then .error (.notCapacity usage.name)
  else if usage.tiers.isEmpty then .error (.noTiers usage.name)
  else .ok usage.tiers

theorem capacityTiers_eq_ok {usage : Usage} {tiers : List Tier} :
    usage.capacityTiers = .ok tiers ↔ usage.usageType = .capacity ∧ usage.tiers ≠ [] ∧ usage.tiers = tiers := by
  unfold capacityTiers
  split
  next other => exact ⟨nofun, fun ⟨kind, _⟩ => absurd kind other⟩
  next kind =>
    split
    next empty => exact ⟨nofun, fun ⟨_, tiered, _⟩ => absurd (List.isEmpty_iff.1 empty) tiered⟩
    next tiered =>
      rw [List.isEmpty_iff] at tiered
      exact ⟨fun same => ⟨Decidable.not_not.1 kind, tiered, Except.ok.inj same⟩, fun ⟨_, _, same⟩ => congrArg _ same⟩

def capacityUnits (usage : Usage) : List String :=
  (usage.tiers.flatMap Tier.limits).map Limit.unit

def consumableUnits (usage : Usage) : List String :=
  (usage.tiers.flatMap Tier.blocks).map TieredBlock.unit

def units (usage : Usage) : List String :=
  match usage.usageType with
  | .capacity => usage.capacityUnits
  | .consumable => usage.consumableUnits

def blocksOf (usage : Usage) (unit : String) : List TieredBlock :=
  (usage.tiers.flatMap Tier.blocks).filter fun block => block.unit == unit

def ladder (usage : Usage) (unit : String) : Except CatalogFault (List TieredBlock) :=
  if usage.usageType ≠ .consumable then .error (.notConsumable usage.name)
  else if (usage.blocksOf unit).isEmpty then .error (.noBlock usage.name unit)
  else .ok (usage.blocksOf unit)

theorem blocksOf_ne_nil (usage : Usage) (unit : String) :
    usage.blocksOf unit ≠ [] ↔ unit ∈ usage.consumableUnits := by
  constructor
  · intro nonempty
    obtain ⟨block, member⟩ := List.exists_mem_of_ne_nil _ nonempty
    obtain ⟨declared, same⟩ := List.mem_filter.1 member
    exact List.mem_map.2 ⟨block, declared, eq_of_beq same⟩
  · intro mem empty
    obtain ⟨block, declared, same⟩ := List.mem_map.1 mem
    have kept : block ∈ usage.blocksOf unit := List.mem_filter.2 ⟨declared, beq_iff_eq.2 same⟩
    rw [empty] at kept
    exact List.not_mem_nil kept

end Usage

end Arrears
