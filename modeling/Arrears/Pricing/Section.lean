import Arrears.Pricing.Capacity
import Arrears.Pricing.Ladder

/-! The price of what was used in an interval, by the usage section. Consumption of units that the
section does not declare is skipped. -/

set_option autoImplicit false

namespace Arrears.Usage

def priceUnit (usage : Usage) (unit : String) (amount : Int) (currency : String) :
    Except Error (List Line) := do
  let blocks ← usage.ladder unit
  match usage.policy with
  | .allTiers => Ladder.allTiers blocks amount currency
  | .topTier =>
    match Ladder.topTier? blocks amount currency with
    | some line => return [← line]
    | none => return []
  | .unknown policy => .error (.catalog (.unknownPolicy usage.name policy))

/-- The used units that are not declared and so not billed, where any unit may be used. -/
def skipped (usage : Usage) (used : List RolledUnit) : List String :=
  match usage.usageType with
  | .capacity => []
  | .consumable => (used.map RolledUnit.unit).filter fun unit => decide (unit ∉ usage.units)

def priceUnits (usage : Usage) (currency : String) : List RolledUnit → Except Error (List Line)
  | [] => .ok []
  | rolled :: more => do
    let lines ← usage.priceUnit rolled.unit rolled.amount currency
    let others ← usage.priceUnits currency more
    return lines ++ others

def price (usage : Usage) (used : List RolledUnit) (currency : String) : Except Error (List Line) :=
  match usage.usageType with
  | .capacity => Capacity.price usage used currency
  | .consumable =>
    usage.priceUnits currency (used.filter fun rolled => decide (rolled.unit ∈ usage.units))

end Arrears.Usage
