import Arrears.Decimal.Basic
import Arrears.Text.Blank

/-! The written form of a decimal number. Writing keeps coefficient and exponent: positional while
the exponent is not positive and at most five zeros follow the point, with a power of ten
otherwise. Reading takes that form and some freer ones: blanks around the number, underscores in
it, digits of any script. -/

set_option autoImplicit false

namespace Arrears.Decimal

open Text

def signChars (negative : Bool) : List Char := if negative then ['-'] else []

def exponentChars (n : Int) : List Char :=
  (if n < 0 then '-' else '+') :: digits n.natAbs

/-- Digits with a point before the last `places` of them, zeros filling up in front. -/
def pointed (cs : List Char) (places : Nat) : List Char :=
  if places = 0 then cs
  else if places < cs.length then cs.take (cs.length - places) ++ '.' :: cs.drop (cs.length - places)
  else '0' :: '.' :: List.replicate (places - cs.length) '0' ++ cs

def scaled (cs : List Char) (power : Int) : List Char :=
  pointed cs (cs.length - 1) ++ 'E' :: exponentChars power

def payloadChars (payload : Nat) : List Char := if payload = 0 then [] else digits payload

def chars : Decimal → List Char
  | finite negative coefficient exponent =>
    let power := leading coefficient exponent
    signChars negative ++
      if exponent ≤ 0 ∧ -6 ≤ power then pointed (digits coefficient) exponent.natAbs
      else scaled (digits coefficient) power
  | infinite negative => signChars negative ++ "Infinity".toList
  | nan negative signalling payload =>
    signChars negative ++ (if signalling then "sNaN".toList else "NaN".toList) ++ payloadChars payload

def toText (d : Decimal) : String := String.ofList d.chars

def dropWord? (word cs : List Char) : Option (List Char) :=
  match word, cs with
  | [], rest => some rest
  | w :: word, c :: cs => if c.toLower = w then dropWord? word cs else none
  | _ :: _, [] => none

/-- The bounds between which a number that is read must lie: the exponent of its first digit has
at most 18 digits, and so its last digit lies above `lowest`. -/
def highest : Int := 999999999999999999
def lowest : Int := -1999999999999999997

def InRange (coefficient : Nat) (exponent : Int) : Prop :=
  leading coefficient exponent ≤ highest ∧ lowest ≤ exponent

instance (coefficient : Nat) (exponent : Int) : Decidable (InRange coefficient exponent) :=
  inferInstanceAs (Decidable (_ ∧ _))

def Representable : Decimal → Prop
  | finite _ coefficient exponent => InRange coefficient exponent
  | _ => True

instance : DecidablePred Representable
  | finite _ coefficient exponent => inferInstanceAs (Decidable (InRange coefficient exponent))
  | infinite _ => isTrue trivial
  | nan .. => isTrue trivial

def splitSign : List Char → Bool × List Char
  | '-' :: rest => (true, rest)
  | '+' :: rest => (false, rest)
  | rest => (false, rest)

def readExponent? (cs : List Char) : Option Int :=
  let (negative, rest) := splitSign cs
  if rest ≠ [] ∧ rest.all Char.isDigit then some (signed negative (ofDigits rest)) else none

def readPower? : List Char → Option Int
  | [] => some 0
  | c :: rest => if c = 'e' ∨ c = 'E' then readExponent? rest else none

/-- Digits with at most one point among them and at least one digit, then the power of ten: the
number that the digits write, and the power of ten of the last. -/
def readScaled? (cs : List Char) : Option (Nat × Int) :=
  let whole := cs.takeWhile Char.isDigit
  let (places, rest) :=
    match cs.dropWhile Char.isDigit with
    | '.' :: rest => (rest.takeWhile Char.isDigit, rest.dropWhile Char.isDigit)
    | rest => ([], rest)
  if whole ++ places = [] then none else
    (readPower? rest).map fun power => (ofDigits (whole ++ places), power - places.length)

def readFinite? (negative : Bool) (cs : List Char) : Option Decimal :=
  (readScaled? cs).bind fun (coefficient, exponent) =>
    if InRange coefficient exponent then some (finite negative coefficient exponent) else none

def readPayload? (negative signalling : Bool) (cs : List Char) : Option Decimal :=
  if cs.all Char.isDigit then some (nan negative signalling (ofDigits cs)) else none

def readPlain? (cs : List Char) : Option Decimal :=
  let (negative, rest) := splitSign cs
  match dropWord? "inf".toList rest with
  | some [] => some (infinite negative)
  | some tail => if dropWord? "inity".toList tail = some [] then some (infinite negative) else none
  | none =>
    match dropWord? "nan".toList rest, dropWord? "snan".toList rest with
    | some payload, _ => readPayload? negative false payload
    | none, some payload => readPayload? negative true payload
    | none, none => readFinite? negative rest

def readChars? (cs : List Char) : Option Decimal :=
  readPlain? (((trim cs).filter (· != '_')).map asciiDigit)

def ofText? (s : String) : Option Decimal := readChars? s.toList

end Arrears.Decimal
