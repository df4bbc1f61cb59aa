import Arrears.Item
import Arrears.Line.Blob

/-! Netting what was billed before against a new bill. Lines of earlier items are absorbed by the
new lines of the same unit; what is left over, and items that have no lines, are taken back by
lines of their own, which name the item. -/

set_option autoImplicit false

namespace Arrears.Reconciliation

def bills (usageName : String) (start stop : Date) (item : Item) : Bool :=
  item.itemType == .usage && item.usageName.eqv (.str usageName) &&
    match item.stop with
    | some itemStop => decide (start ≤ item.start) && decide (itemStop ≤ stop)
    | none => false

def billedItems (usageName : String) (start stop : Date) (existing : List Item) : List Item :=
  existing.filter (bills usageName start stop)

def billedAmount (items : List Item) : Except Decimal.Fault Decimal :=
  Decimal.sum (items.map fun item => item.amount)

def isNeeded (items : List Item) (billed due : Decimal) : Except Decimal.Fault Bool :=
  if items.isEmpty then .ok true else billed.lt due

def absorbAll : List Line → List Line → List Line × Except Decimal.Fault (List Line)
  | [], billed => ([], .ok billed)
  | candidate :: candidates, billed =>
    match candidate.absorb billed with
    | (candidate, .error fault) => (candidate :: candidates, .error fault)
    | (candidate, .ok left) =>
      let (candidates, left) := absorbAll candidates left
      (candidate :: candidates, left)

def netItem (candidates : List Line) (item : Item) : List Line × Except Error (List Line) :=
  match Line.readBlob item.details with
  | .error fault => (candidates, .error (.blob fault))
  | .ok none | .ok (some []) =>
    (candidates, item.amount.neg.mapError .arithmetic |>.map fun amount =>
      [Line.adjustment item.rate item.quantity amount item.id])
  | .ok (some billed) =>
    match absorbAll candidates billed with
    | (candidates, .error fault) => (candidates, .error (.arithmetic fault))
    | (candidates, .ok left) =>
      (candidates, (left.mapM fun (line : Line) => line.reversal item.id).mapError .arithmetic)

def netItems (candidates : List Line) : List Item → List Line × Except Error (List Line)
  | [] => (candidates, .ok [])
  | item :: items =>
    match netItem candidates item with
    | (candidates, .error error) => (candidates, .error error)
    | (candidates, .ok reversals) =>
      let (candidates, more) := netItems candidates items
      (candidates, more.map (reversals ++ ·))

/-- The new bill: the candidates, and behind them the lines that take earlier bills back. -/
def net (items : List Item) (candidates : List Line) : Except Error (List Line) :=
  let (candidates, reversals) := netItems candidates items
  reversals.map (candidates ++ ·)

end Arrears.Reconciliation
