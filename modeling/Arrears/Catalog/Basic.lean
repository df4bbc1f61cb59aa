import Arrears.Assoc
import Arrears.Catalog.Period
import Arrears.Error
import Arrears.Number.Basic

/-! A usage section of the catalog: what is metered, how often it is billed, and the ladder of tiers
that prices it. Capacity is priced by the limits of a tier, consumption by blocks of units. -/

set_option autoImplicit false

namespace Arrears

inductive UsageType where
  | capacity
  | consumable
  deriving DecidableEq, Repr

inductive BillingMode where
  | inAdvance
  | inArrear
  deriving DecidableEq, Repr

/-- Whether each unit is charged at the tier it falls in, or all of them at the tier that the last
one falls in. A name that the catalog does not know is kept. -/
inductive BlockPolicy where
  | allTiers
  | topTier
  | unknown (name : String)
  deriving DecidableEq, Repr

abbrev Prices := List (String × Decimal)

inductive Bound where
  | int (n : Int)
  | binary (x : Binary64)
  deriving DecidableEq, Repr

/-- The largest amount of a unit that a tier admits; -1 stands for any amount. -/
structure Limit where
  unit : String
  max : Bound
  min : Option Bound
  deriving DecidableEq, Repr

/-- A price for each block of `size` units and for at most `max` blocks; -1 stands for any number. -/
structure TieredBlock where
  unit : String
  size : Nat
  max : Int
  prices : Prices
  size_pos : 0 < size
  deriving DecidableEq, Repr

structure Tier where
  limits : List Limit
  blocks : List TieredBlock
  recurringPrices : Prices
  deriving DecidableEq, Repr

structure Usage where
  name : String
  usageType : UsageType
  period : BillingPeriod
  mode : BillingMode
  policy : BlockPolicy
  tiers : List Tier
  deriving DecidableEq, Repr

def unlimited : Int := -1

namespace UsageType

def name : UsageType → String
  | capacity => "CAPACITY"
  | consumable => "CONSUMABLE"

def ofName? (text : String) : Option UsageType :=
  [capacity, consumable].find? fun usageType => usageType.name == text

end UsageType

namespace BillingMode

def name : BillingMode → String
  | inAdvance => "IN_ADVANCE"
  | inArrear => "IN_ARREAR"

def ofName? (text : String) : Option BillingMode :=
  [inAdvance, inArrear].find? fun mode => mode.name == text

end BillingMode

def BlockPolicy.ofName (text : String) : BlockPolicy :=
  if text = "ALL_TIERS" then allTiers else if text = "TOP_TIER" then topTier else unknown text

def Bound.number : Bound → Number
  | int n => .int n
  | binary x => .binary x

def Limit.isUnbounded (limit : Limit) : Bool := limit.max.number.eqv (.int unlimited)

-- A bound that is no number has no amount above it.
def Limit.admits (limit : Limit) (amount : Int) : Bool :=
  limit.isUnbounded || Decimal.order? (.ofInt amount) limit.max.number.exact != some .gt

def priceFor (prices : Prices) (currency : String) (priced : Priced) : Except CatalogFault Decimal :=
  match Assoc.get? currency prices with
  | some price => .ok price
  | none => .error (.noPrice currency priced)

theorem priceFor_eq_ok {prices : Prices} {currency : String} {priced : Priced} {price : Decimal} :
    priceFor prices currency priced = .ok price ↔ Assoc.get? currency prices = some price := by
  unfold priceFor
  split <;> simp_all

namespace TieredBlock

def ofSize (unit : String) (size max : Int) (prices : Prices) : Except CatalogFault TieredBlock :=
  if h : 0 < size then .ok ⟨unit, size.toNat, max, prices, by omega⟩
  else .error (.blockSize unit size)

def priceIn (block : TieredBlock) (currency : String) : Except CatalogFault Decimal :=
  priceFor block.prices currency (.block block.unit block.size)

end TieredBlock

namespace Tier

def recurringPriceIn (tier : Tier) (currency : String) : Except CatalogFault Decimal :=
  priceFor tier.recurringPrices currency .capacityTier

-- The first limit of a unit counts.
def limitOf? (tier : Tier) (unit : String) : Option Limit :=
  tier.limits.find? fun limit => limit.unit == unit

end Tier

end Arrears
