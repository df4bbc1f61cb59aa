import Arrears.Json.Basic

/-! Amounts and counts in data. An amount is a number, a text that reads as one, or its three
parts: sign, digits and exponent. A count is a whole number; fractions are cut off, and a text
may be longer than a limit on digits allows. -/

set_option autoImplicit false

namespace Arrears.Json

inductive AmountFault where
  | unreadable
  | notAnAmount
  | badParts
  /-- A part that needs more than 64 bits. -/
  | hugePart
  deriving DecidableEq, Repr

-- A whole number of 64 bits among the parts of an amount.
def part (value : Json) : Except AmountFault Int :=
  match value with
  | num (.int n) => if -0x8000000000000000 ≤ n ∧ n < 0x8000000000000000 then .ok n else .error .hugePart
  | bool b => .ok b.toNat
  | _ => .error .badParts

def signPart (value : Json) : Except AmountFault Bool := do
  let n ← part value
  if n = 0 then .ok false else if n = 1 then .ok true else .error .badParts

def digitPart (value : Json) : Except AmountFault Nat := do
  let n ← part value
  if 0 ≤ n ∧ n ≤ 9 then .ok n.toNat else .error .badParts

/-- The last part: an exponent, or a letter for the numbers without one. -/
inductive Scale where
  | exponent (n : Int)
  | infinite
  | nan (signalling : Bool)

def scalePart : Json → Except AmountFault Scale
  | str "F" => .ok .infinite
  | str "n" => .ok (.nan false)
  | str "N" => .ok (.nan true)
  | str _ => .error .badParts
  | value => (part value).map .exponent

def digitsPart : Json → Except AmountFault (List Nat)
  | arr items => items.mapM digitPart
  | _ => .error .badParts

def amountOfParts (sign digits scale : Json) : Except AmountFault Decimal := do
  let negative ← signPart sign
  let scale ← scalePart scale
  let digits ← digitsPart digits
  let coefficient := digits.foldl (fun n digit => 10 * n + digit) 0
  match scale with
  | .infinite => .ok (.infinite negative)
  | .nan signalling => .ok (.nan negative signalling coefficient)
  | .exponent exponent =>
    if Decimal.InRange coefficient exponent then .ok (.finite negative coefficient exponent)
    else .error .unreadable

def amount (value : Json) : Except AmountFault Decimal :=
  match value with
  | num n => if n.amount.Representable then .ok n.amount else .error .unreadable
  | bool b => .ok (.ofInt b.toNat)
  | str s =>
    match Decimal.ofText? s with
    | some d => .ok d
    | none => .error .unreadable
  | arr [sign, digits, scale] => amountOfParts sign digits scale
  | arr _ => .error .badParts
  | null | obj _ => .error .notAnAmount

inductive CountFault where
  | notACount
  | infinite
  deriving DecidableEq, Repr

/-- The whole part of a number, however many digits it takes to write it out. -/
def wholePart : Decimal → Except CountFault Int
  | .finite negative coefficient exponent =>
    .ok (Decimal.signed negative
      (coefficient * Nat.pow 10 exponent.toNat / Nat.pow 10 (-exponent).toNat))
  | .infinite _ => .error .infinite
  | .nan .. => .error .notACount

def readGrouped? (seen : List Char) : List Char → Option Nat
  | [] => if seen.isEmpty then none else some (Text.ofDigits seen.reverse)
  | ['_'] => none
  | '_' :: c :: rest =>
    if c.isDigit && !seen.isEmpty then readGrouped? (c :: seen) rest else none
  | c :: rest => if c.isDigit then readGrouped? (c :: seen) rest else none

/-- A whole number, perhaps signed, with blanks around it and digits of any script. -/
def readCount? (s : String) : Option Int :=
  let cs := (Text.trimWith Text.isNumberBlank s.toList).map Text.asciiDigit
  let (negative, rest) := Decimal.splitSign cs
  (readGrouped? [] rest).map (Decimal.signed negative)

def digitsIn (s : String) : Nat := (s.toList.map Text.asciiDigit).countP Char.isDigit

def count (limit : Option Nat) (value : Json) : Except CountFault Int :=
  match value with
  | num (.int n) => .ok n
  | num n => wholePart n.exact
  | bool b => .ok b.toNat
  | str s =>
    match readCount? s with
    | some n => if limit.any (· < digitsIn s) then .error .notACount else .ok n
    | none => .error .notACount
  | null | arr _ | obj _ => .error .notACount

end Arrears.Json
