import Arrears.Number.Shortest
import Arrears.Decimal.Order
import Arrears.Decimal.Text

/-! Numbers as data carries them: whole, binary or decimal, each kept in the form it came in. They
compare by value across the forms. -/

set_option autoImplicit false

namespace Arrears

inductive Number where
  | int (n : Int)
  | binary (x : Binary64)
  | decimal (d : Decimal)
  deriving DecidableEq, Repr

namespace Binary64

/-- Digits and exponent of the written form: from a ten thousandth up to sixteen places it has a
point and a digit behind it. -/
def writtenParts (mantissa : Nat) (exponent : Int) : Nat × Int :=
  let (digits, last) := shortest mantissa exponent
  let power := Decimal.leading digits last
  if -4 ≤ power ∧ power < 16 ∧ 0 ≤ last then (digits * Nat.pow 10 (last.toNat + 1), -1) else (digits, last)

def written : Binary64 → Decimal
  | finite negative mantissa exponent =>
    let (digits, last) := writtenParts mantissa exponent
    .finite negative digits last
  | infinite negative => .infinite negative
  | nan => .nan false false 0

def powerChars (power : Int) : List Char :=
  let cs := Text.digits power.natAbs
  'e' :: (if power < 0 then '-' else '+') :: (if cs.length < 2 then '0' :: cs else cs)

structure Spelling where
  infinity : String
  nan : String

def chars (spelling : Spelling) : Binary64 → List Char
  | finite negative mantissa exponent =>
    let (digits, last) := writtenParts mantissa exponent
    let cs := Text.digits digits
    let power := Decimal.leading digits last
    Decimal.signChars negative ++
      if -4 ≤ power ∧ power < 16 then Decimal.pointed cs last.natAbs
      else Decimal.pointed cs (cs.length - 1) ++ powerChars power
  | infinite negative => Decimal.signChars negative ++ spelling.infinity.toList
  | nan => spelling.nan.toList

end Binary64

namespace Number

def exact : Number → Decimal
  | int n => .ofInt n
  | binary x => x.exact
  | decimal d => d

/-- The amount a number stands for: a binary one means the digits it is written with. -/
def amount : Number → Decimal
  | int n => .ofInt n
  | binary x => x.written
  | decimal d => d

def isZero : Number → Bool
  | int n => n == 0
  | binary x => x.isZero
  | decimal d => d.isZero

def isDecimal : Number → Bool
  | decimal _ => true
  | _ => false

def isLong (most : Nat) : Number → Bool
  | int n => decide (most < (Text.digits n.natAbs).length)
  | _ => false

def eqv (left right : Number) : Bool := Decimal.order? left.exact right.exact == some .eq

def intChars (n : Int) : List Char := Decimal.signChars (decide (n < 0)) ++ Text.digits n.natAbs

end Number

end Arrears
