import Arrears.Calendar.Date
import Arrears.Catalog.Period
import Arrears.Decimal.Basic
import Arrears.Text.Quoted

/-! What can go wrong in billing, by cause, and the wording of each cause. Faults of dates and of
arithmetic have no wording of their own. -/

set_option autoImplicit false

namespace Arrears

inductive Priced where
  | capacityTier
  | block (unit : String) (size : Nat)
  deriving DecidableEq, Repr

inductive CatalogFault where
  | unsupportedPeriod (period : BillingPeriod)
  | blockSize (unit : String) (size : Int)
  | notCapacity (usage : String)
  | notConsumable (usage : String)
  | noTiers (usage : String)
  | noBlock (usage unit : String)
  | noPrice (currency : String) (priced : Priced)
  | undeclaredUnits (usage : String) (units : List String)
  | noTier (usage : String) (amounts : List (String × Int))
  | unknownPolicy (usage policy : String)
  deriving DecidableEq, Repr

inductive LifecycleFault where
  | notBuilt (usage : String)
  | alreadyBuilt (usage : String)
  | noEvent (usage : String)
  | tooFewEvents (usage : String) (closed : Bool) (count : Nat)
  | cycleDay (day : Int)
  deriving DecidableEq, Repr

inductive SettingsFault where
  | notAMapping
  | tenantsNotAMapping
  | badTimeZone (shown : String)
  | unknownMode (shown : String)
  | missingFile (path : String)
  | fileNotAMapping (path : String)
  | unknownFields (names : List String)
  | unknownTimeZone (name : String)
  deriving DecidableEq, Repr

inductive BlobFault where
  | malformed
  | notAnArray
  | malformedRecord
  | notWritable
  /-- Causes outside the form of a blob: a number beyond all readable ones, an endless count, a
  part of an amount that needs more than 64 bits, and a blob that is no text. -/
  | unreadableNumber
  | endlessCount
  | hugePart
  | notText
  deriving DecidableEq, Repr

inductive Error where
  | catalog (fault : CatalogFault)
  | lifecycle (fault : LifecycleFault)
  | settings (fault : SettingsFault)
  | blob (fault : BlobFault)
  | date (fault : Date.Fault)
  | arithmetic (fault : Decimal.Fault)
  deriving DecidableEq, Repr

def Priced.text : Priced → String
  | capacityTier => "capacity tier"
  | block unit size => "tiered block " ++ unit ++ "/" ++ size.repr

def amountText (amount : String × Int) : String := amount.1 ++ "=" ++ toString amount.2

def CatalogFault.message : CatalogFault → String
  | unsupportedPeriod period => "Unsupported billing period: BillingPeriod." ++ period.name
  | blockSize unit size =>
    "Tiered block for unit " ++ unit ++ " must have a positive size, got " ++ toString size
  | notCapacity usage => "Usage section " ++ usage ++ " is not a capacity usage"
  | notConsumable usage => "Usage section " ++ usage ++ " is not a consumable usage"
  | noTiers usage => "Usage section " ++ usage ++ " defines no tiers"
  | noBlock usage unit => "Usage section " ++ usage ++ " has no tiered block for unit " ++ unit
  | noPrice currency priced => "No " ++ currency ++ " price defined for " ++ priced.text
  | undeclaredUnits usage units =>
    "Could not find unit type(s) " ++ ", ".intercalate units ++ " in any tier of usage " ++ usage
  | noTier usage amounts =>
    "Could not find tier for usage " ++ usage ++ " matching with data = " ++
      ", ".intercalate (amounts.map amountText)
  | unknownPolicy usage policy =>
    "Unknown TierBlockPolicy " ++ Text.displayString policy ++ " for usage " ++ usage

def requiredEvents (closed : Bool) : Nat := if closed then 2 else 1

def LifecycleFault.message : LifecycleFault → String
  | notBuilt usage => "Usage interval for " ++ usage ++ " has not been built"
  | alreadyBuilt usage => "Usage interval for " ++ usage ++ " is already built"
  | noEvent usage => "Usage interval for " ++ usage ++ " has no billing event"
  | tooFewEvents usage closed count =>
    "Usage interval for " ++ usage ++ " needs at least " ++ (requiredEvents closed).repr ++
      " billing event(s) to build a " ++ (if closed then "closed" else "open") ++
      " interval, got " ++ count.repr
  | cycleDay day => "billing_cycle_day must be within 1..31, got " ++ toString day

def SettingsFault.message : SettingsFault → String
  | notAMapping => "Invoice config must be a mapping"
  | tenantsNotAMapping => "tenant_modes must be a mapping of tenant id to mode"
  | badTimeZone shown => "time_zone must be a non-empty string, got " ++ shown
  | unknownMode shown =>
    "item_result_behavior_mode must be AGGREGATE or DETAIL, got '" ++ shown ++ "'"
  | missingFile path => "Config not found: " ++ path
  | fileNotAMapping path => "Config must be a YAML mapping: " ++ path
  | unknownFields names => "Unknown config fields: " ++ ", ".intercalate names
  | unknownTimeZone name => "Unknown time zone: " ++ name

-- The wording for a blob that breaks the form; the causes outside it have none.
def BlobFault.message : BlobFault → Option String
  | malformed => some "Malformed usage details:"
  | notAnArray => some "Usage details must be a JSON array"
  | malformedRecord => some "Malformed usage detail record:"
  | notWritable => some "Cannot serialize usage details:"
  | unreadableNumber | endlessCount | hugePart | notText => none

def Error.message : Error → Option String
  | catalog fault => some fault.message
  | lifecycle fault => some fault.message
  | settings fault => some fault.message
  | blob fault => fault.message
  | date _ | arithmetic _ => none

instance : MonadLift (Except CatalogFault) (Except Error) := ⟨Except.mapError Error.catalog⟩
instance : MonadLift (Except LifecycleFault) (Except Error) := ⟨Except.mapError Error.lifecycle⟩
instance : MonadLift (Except SettingsFault) (Except Error) := ⟨Except.mapError Error.settings⟩
instance : MonadLift (Except BlobFault) (Except Error) := ⟨Except.mapError Error.blob⟩
instance : MonadLift (Except Date.Fault) (Except Error) := ⟨Except.mapError Error.date⟩
instance : MonadLift (Except Decimal.Fault) (Except Error) := ⟨Except.mapError Error.arithmetic⟩

end Arrears
