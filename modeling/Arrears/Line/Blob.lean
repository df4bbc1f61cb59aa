import Arrears.Error
import Arrears.Json.Amount
import Arrears.Json.Reader
import Arrears.Json.Writer
import Arrears.Line.Basic

/-! Lines as an item stores them: a JSON array of records, or nothing where there are no lines.
Amounts are written as texts, so that they keep their digits and their exponents. The runtime may put
a limit on the digits of whole numbers that are turned into text or read from it; blobs are written
and read without one unless it is given. -/

set_option autoImplicit false

namespace Arrears.Line

def amountJson (amount : Option Decimal) : Json :=
  match amount with
  | some d => .str d.toText
  | none => .null

def toJson (line : Line) : Json :=
  .obj [("tier", .int line.tier), ("tierUnit", line.unit), ("tierPrice", amountJson line.price),
    ("quantity", line.quantity), ("amount", amountJson (some line.amount)),
    ("existingUsageAmount", amountJson line.absorbed), ("reference", line.reference)]

/-- Writes lines, unless a decimal number stands where only texts of numbers are written, or a whole
number is too long. -/
def writeBlobWithin (limit : Option Nat) (lines : List Line) : Except BlobFault (Option String) :=
  let value := Json.arr (lines.map toJson)
  if lines.isEmpty then .ok none
  else if value.hasDecimal || limit.any (value.hasLong ·) then .error .notWritable
  else .ok (some value.toText)

def writeBlob (lines : List Line) : Except BlobFault (Option String) := writeBlobWithin none lines

def amountField (fault : Json.AmountFault) : BlobFault :=
  match fault with
  | .hugePart => .hugePart
  | .unreadable | .notAnAmount | .badParts => .malformedRecord

def readAmount? (value : Json) : Except BlobFault (Option Decimal) :=
  match value with
  | .null => .ok none
  | value => (value.amount.mapError amountField).map some

def readCount (limit : Option Nat) (value : Json) : Except BlobFault Int :=
  (value.count limit).mapError fun fault =>
    match fault with
    | .infinite => .endlessCount
    | .notACount => .malformedRecord

def readQuantity (limit : Option Nat) (value : Json) : Except BlobFault Json :=
  match value with
  | .null => .ok .null
  | value => (readCount limit value).map .int

/-- Reads a record; a tier that is absent is tier zero, an amount that is absent is none. -/
def ofJson (limit : Option Nat) (value : Json) : Except BlobFault Line :=
  match value with
  | .obj _ => do
    let amount ← readAmount? (value.getD "amount")
    let tier ← readCount limit ((value.get? "tier").getD (.int 0))
    let price ← readAmount? (value.getD "tierPrice")
    let quantity ← readQuantity limit (value.getD "quantity")
    let absorbed ← readAmount? (value.getD "existingUsageAmount")
    return ⟨tier, value.getD "tierUnit", price, quantity, amount.getD .zero, absorbed,
      value.getD "reference"⟩
  | _ => .error .malformedRecord

def ofReadFault (fault : Json.ReadFault) : BlobFault :=
  match fault with
  | .malformed => .malformed
  | .unreadableNumber => .unreadableNumber

def readBlobWithin (limit : Option Nat) (blob : Json) : Except BlobFault (Option (List Line)) :=
  match blob with
  | .null => .ok none
  | .str text => do
    match ← (Json.readWithin limit .decimal text).mapError ofReadFault with
    | .arr records => return some (← records.mapM (ofJson limit))
    | _ => .error .notAnArray
  | _ => .error .notText

def readBlob (blob : Json) : Except BlobFault (Option (List Line)) := readBlobWithin none blob

theorem readBlob_str (text : String) :
    readBlob (.str text) = (do
      match ← (Json.read .decimal text).mapError ofReadFault with
      | .arr records => return some (← records.mapM (ofJson none))
      | _ => .error .notAnArray) := by
  rw [readBlob, readBlobWithin, Json.readWithin_none]

def eqvAmount (left right : Option Decimal) : Except Decimal.Fault Bool :=
  match left, right with
  | none, none => .ok true
  | some left, some right => left.eqv right
  | _, _ => .ok false

-- Compares field by field and stops at the first difference.
def eqv (left right : Line) : Except Decimal.Fault Bool := do
  if left.tier ≠ right.tier ∨ ¬left.unit.eqv right.unit then return false
  if !(← eqvAmount left.price right.price) then return false
  if !left.quantity.eqv right.quantity then return false
  if !(← left.amount.eqv right.amount) then return false
  if !(← eqvAmount left.absorbed right.absorbed) then return false
  return left.reference.eqv right.reference

def eqvAll : List Line → List Line → Except Decimal.Fault Bool
  | [], [] => .ok true
  | left :: lefts, right :: rights => do
    if ← left.eqv right then eqvAll lefts rights else return false
  | _, _ => .ok false

end Arrears.Line
