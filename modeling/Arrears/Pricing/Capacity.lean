import Arrears.Catalog.Lookup
import Arrears.Line.Basic
import Arrears.Rollup

/-! Capacity. An interval is charged at the first tier whose limits admit what was used of every
unit. The price of the tier is due once, on the last line. -/

set_option autoImplicit false

namespace Arrears.Capacity

def complies (tier : Tier) (used : List RolledUnit) : Bool :=
  used.all fun rolled =>
    match tier.limitOf? rolled.unit with
    | some limit => limit.admits rolled.amount
    | none => false

def firstComplying? (used : List RolledUnit) : List Tier → Option (Nat × Tier)
  | [] => none
  | tier :: tiers =>
    if complies tier used then some (1, tier)
    else (firstComplying? used tiers).map fun (number, tier) => (number + 1, tier)

def undeclared (tiers : List Tier) (used : List RolledUnit) : List String :=
  let declared := (tiers.flatMap Tier.limits).map Limit.unit
  sortedNames ((used.map RolledUnit.unit).filter fun unit => decide (unit ∉ declared))

def freeLine (tier : Nat) (price : Decimal) (rolled : RolledUnit) : Line :=
  ⟨tier, .str rolled.unit, some price, .int rolled.amount, .zero, none, .null⟩

-- The lines of a tier; the last one carries the price.
def lines (tier : Nat) (price : Decimal) : List RolledUnit → List Line
  | [] => []
  | [rolled] => [{ freeLine tier price rolled with amount := price }]
  | rolled :: more => freeLine tier price rolled :: lines tier price more

def price (usage : Usage) (used : List RolledUnit) (currency : String) :
    Except CatalogFault (List Line) :=
  if used.isEmpty then .ok [] else do
    let tiers ← usage.capacityTiers
    let missing := undeclared tiers used
    if !missing.isEmpty then
      .error (.undeclaredUnits usage.name missing)
    else
      match firstComplying? used tiers with
      | none => .error (.noTier usage.name (used.map fun rolled => (rolled.unit, rolled.amount)))
      | some (number, tier) =>
        let price ← tier.recurringPriceIn currency
        return lines number price used

end Arrears.Capacity
