import Arrears.Calendar.DateText
import Arrears.Decimal.Text
import Arrears.Json.Amount

/-! Invoice items. What billing does not look at, such as names and references of other parties, an
item carries as data. A draft is an item that has no identifier yet. -/

set_option autoImplicit false

namespace Arrears

inductive ItemType where
  | usage
  | recurring
  | fixed
  | creditAdjustment
  | itemAdjustment
  deriving DecidableEq, Repr

namespace ItemType

def all : List ItemType := [usage, recurring, fixed, creditAdjustment, itemAdjustment]

def name : ItemType → String
  | usage => "USAGE"
  | recurring => "RECURRING"
  | fixed => "FIXED"
  | creditAdjustment => "CREDIT_ADJ"
  | itemAdjustment => "ITEM_ADJ"

def ofName? (text : String) : Option ItemType := all.find? fun itemType => itemType.name == text

theorem ofName?_name (itemType : ItemType) : ofName? itemType.name = some itemType := by
  cases itemType <;> decide

end ItemType

structure Draft where
  itemType : ItemType
  invoiceId : Json
  accountId : Json
  bundleId : Json
  subscriptionId : Json
  planName : Json
  phaseName : Json
  usageName : Json
  start : Date
  stop : Option Date
  amount : Decimal
  currency : Json
  rate : Option Decimal
  quantity : Json
  details : Json
  deriving Repr

structure Item extends Draft where
  id : Json
  deriving Repr

inductive ItemFault where
  | notAnObject
  | missing (key : String)
  | unknownType
  | badDate
  | dateNotText
  | amount (fault : Json.AmountFault)
  deriving DecidableEq, Repr

def freshId (issued : Nat) : String := "new-" ++ (issued + 1).repr

namespace Item

def number (issued : Nat) : List Draft → List Item
  | [] => []
  | draft :: drafts => { draft with id := .str (freshId issued) } :: number (issued + 1) drafts

-- A member that is left out when it is null.
def optional (key : String) (value : Json) : List (String × Json) :=
  match value with
  | .null => []
  | value => [(key, value)]

def textOrNull (text : Option String) : Json :=
  match text with
  | some text => .str text
  | none => .null

def toJson (item : Item) : Json :=
  .obj ([("id", item.id), ("invoice_item_type", .str item.itemType.name),
    ("invoice_id", item.invoiceId), ("account_id", item.accountId), ("bundle_id", item.bundleId),
    ("subscription_id", item.subscriptionId), ("plan_name", item.planName),
    ("phase_name", item.phaseName), ("start_date", .str item.start.toText),
    ("amount", .str item.amount.toText), ("currency", item.currency)] ++
    optional "usage_name" item.usageName ++
    optional "end_date" (textOrNull (item.stop.map Date.toText)) ++
    optional "rate" (textOrNull (item.rate.map Decimal.toText)) ++
    optional "quantity" item.quantity ++
    optional "item_details" item.details)

-- Whether data of an item lacks an identifier, so that it is given a fresh one.
def lacksId (value : Json) : Bool := (value.getD "id").isVacant

def required (value : Json) (key : String) : Except ItemFault Json :=
  match value.get? key with
  | some member => .ok member
  | none => .error (.missing key)

def readType (value : Json) : Except ItemFault ItemType :=
  match value.get? "invoice_item_type" with
  | none => .ok .usage
  | some (.str name) =>
    match ItemType.ofName? name with
    | some itemType => .ok itemType
    | none => .error .unknownType
  | some _ => .error .unknownType

def readDate (value : Json) : Except ItemFault Date :=
  match value with
  | .str text =>
    match Date.ofText? text with
    | some date => .ok date
    | none => .error .badDate
  | _ => .error .dateNotText

def readAmount (value : Json) : Except ItemFault Decimal := value.amount.mapError .amount

def readRate (value : Json) : Except ItemFault (Option Decimal) :=
  match value with
  | .null => .ok none
  | value => (readAmount value).map some

def readStop (value : Json) : Except ItemFault (Option Date) :=
  if value.isVacant then .ok none else (readDate value).map some

def named (value : Json) (key : String) : Json := (value.get? key).getD (.str "")

def ofJson (fresh : String) (value : Json) : Except ItemFault Item :=
  match value with
  | .obj _ => do
    let itemType ← readType value
    let invoiceId ← required value "invoice_id"
    let accountId ← required value "account_id"
    let start ← readDate (← required value "start_date")
    let stop ← readStop (value.getD "end_date")
    let amount ← readAmount (← required value "amount")
    let currency ← required value "currency"
    let rate ← readRate (value.getD "rate")
    return {
      itemType, invoiceId, accountId, start, stop, amount, currency, rate
      bundleId := named value "bundle_id"
      subscriptionId := named value "subscription_id"
      planName := named value "plan_name"
      phaseName := named value "phase_name"
      usageName := value.getD "usage_name"
      quantity := value.getD "quantity"
      details := value.getD "item_details"
      id := if lacksId value then .str fresh else value.getD "id" }
  | _ => .error .notAnObject

/-- Reads items in order; each that lacks an identifier takes the next, also one that cannot be
read, and the first that cannot be read ends it. Gives the number of identifiers issued. -/
def readAll (issued : Nat) : List Json → Nat × Except ItemFault (List Item)
  | [] => (issued, .ok [])
  | value :: values =>
    let after := if lacksId value then issued + 1 else issued
    match ofJson (freshId issued) value with
    | .error fault => (after, .error fault)
    | .ok item =>
      let (issued, items) := readAll after values
      (issued, items.map (item :: ·))

end Item

end Arrears
