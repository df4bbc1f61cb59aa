import Arrears.Json.Token
import Arrears.Text.Lower
import Arrears.Yaml.Fault

/-! Numbers in YAML text: whole ones in base two, eight, ten or sixteen, numbers with a point, and
both in sixtieths, `1:30:00`. Underscores may stand between digits. -/

set_option autoImplicit false

namespace Arrears.Yaml.Numeral

def parts (mark : Char) : List Char → List (List Char)
  | [] => [[]]
  | c :: rest =>
    match parts mark rest with
    | part :: more => if c = mark then [] :: part :: more else (c :: part) :: more
    | [] => [[c]]

def dropSign (cs : List Char) : List Char := (Decimal.splitSign cs).2

def isGrouped (c : Char) : Bool := c.isDigit || c == '_'

def isGroupedRow (cs : List Char) : Bool := cs.head?.any Char.isDigit && cs.all isGrouped

def isSixtieth (cs : List Char) : Bool :=
  match cs with
  | [c] => c.isDigit
  | [c, d] => decide ('0' ≤ c) && decide (c ≤ '5') && d.isDigit
  | _ => false

def isSixtieths (cs : List Char) : Bool :=
  match parts ':' cs with
  | first :: second :: more => isGroupedRow first && (second :: more).all isSixtieth
  | _ => false

def isBit (c : Char) : Bool := c == '0' || c == '1' || c == '_'
def isOctal (c : Char) : Bool := decide ('0' ≤ c) && decide (c ≤ '7') || c == '_'
def isHex (c : Char) : Bool := (Json.hexValue? c).isSome || c == '_'

/-- Whether a text writes a whole number. A zero in front is the sign of another base. -/
def isInt (cs : List Char) : Bool :=
  match dropSign cs with
  | ['0'] => true
  | '0' :: 'b' :: rest => !rest.isEmpty && rest.all isBit
  | '0' :: 'x' :: rest => !rest.isEmpty && rest.all isHex
  | '0' :: rest => rest.all isOctal
  | rest => isGroupedRow rest || isSixtieths rest

def isPower (cs : List Char) : Bool :=
  match cs with
  | [] => true
  | mark :: sign :: digits =>
    (mark == 'e' || mark == 'E') && (sign == '+' || sign == '-') && !digits.isEmpty &&
      digits.all Char.isDigit
  | _ => false

def isOneOf (words : List String) (cs : List Char) : Bool := words.contains (String.ofList cs)

/-- Whether a text writes a number with a point. With no digit before the point there is no sign. -/
def isFloat (cs : List Char) : Bool :=
  let unsigned := dropSign cs
  let whole := unsigned.takeWhile (· != '.')
  match unsigned.dropWhile (· != '.') with
  | _ :: places =>
    let rest := places.dropWhile isGrouped
    if whole.isEmpty then
      isOneOf [".inf", ".Inf", ".INF"] unsigned || isOneOf [".nan", ".NaN", ".NAN"] cs ||
        cs.head? == some '.' && places.head?.any Char.isDigit && isPower rest
    else isGroupedRow whole && isPower rest || isSixtieths whole && rest.isEmpty
  | [] => false

/-! The value of a text. It need not be written as above: blanks may surround a number, its digits
may be those of any script, and each part may have a sign of its own. -/

def natIn? (base : Nat) (cs : List Char) : Option Nat :=
  if cs.isEmpty then none else
    cs.foldl (fun n c => n.bind fun n => (Json.hexValue? c).bind fun d =>
      if d < base then some (base * n + d) else none) (some 0)

def bare (cs : List Char) : List Char := (Text.trimWith Text.isNumberBlank cs).map Text.asciiDigit

def baseLetter? (base : Nat) : Option Char :=
  match base with
  | 2 => some 'b'
  | 8 => some 'o'
  | 16 => some 'x'
  | _ => none

def dropBase (base : Nat) (cs : List Char) : List Char :=
  match cs with
  | '0' :: c :: rest => if baseLetter? base = some c.toLower then rest else cs
  | _ => cs

/-- The whole number that a text writes in a base, of which it may have the sign. -/
def whole? (base : Nat) (cs : List Char) : Option Int :=
  let (negative, rest) := Decimal.splitSign (bare cs)
  (natIn? base (dropBase base rest)).map (Decimal.signed negative)

def sixtieths? (cs : List Char) : Option Int :=
  (parts ':' cs).foldl (fun n part => n.bind fun n => (whole? 10 part).map (60 * n + ·)) (some 0)

def orNone {α : Type} : Option α → Except Fault α
  | some found => .ok found
  | none => .error .noSuchValue

def int (cs : List Char) : Except Fault Int :=
  let (negative, rest) := Decimal.splitSign (cs.filter (· != '_'))
  (magnitude rest).map fun n => if negative then -n else n
where
  magnitude (cs : List Char) : Except Fault Int :=
    match cs with
    | [] => .error .nothingLeft
    | ['0'] => .ok 0
    | '0' :: 'b' :: rest => orNone (whole? 2 rest)
    | '0' :: 'x' :: rest => orNone (whole? 16 rest)
    | '0' :: _ => orNone (whole? 8 cs)
    | cs => orNone (if cs.contains ':' then sixtieths? cs else whole? 10 cs)

def decimal? (cs : List Char) : Option Binary64 :=
  let (negative, rest) := Decimal.splitSign (bare cs)
  if isOneOf ["inf", "infinity"] rest then some (.infinite negative)
  else if isOneOf ["nan"] rest then some .nan
  else (Decimal.readScaled? rest).map fun (coefficient, exponent) =>
    .ofDecimal (.finite negative coefficient exponent)

/-- A number from its parts in sixtieths, lowest first; each product and sum is rounded, and so is
the power of sixty, which must not be too large. -/
def sumSixtieths (power : Nat) (sum : Binary64) : List Binary64 → Except Fault Binary64
  | [] => .ok sum
  | part :: more =>
    match Binary64.ofNat power with
    | .finite negative mantissa exponent =>
      sumSixtieths (60 * power) (sum.add (part.mul (.finite negative mantissa exponent))) more
    | _ => .error .tooLarge

def isNamedNan (cs : List Char) : Bool :=
  isOneOf [".nan"] (Decimal.splitSign (Text.lower (cs.filter (· != '_')))).2

def float (cs : List Char) : Except Fault Binary64 :=
  match Text.lower (cs.filter (· != '_')) with
  | [] => .error .nothingLeft
  | cs =>
    let (negative, rest) := Decimal.splitSign cs
    (magnitude rest).map fun x => if negative then x.neg else x
where
  magnitude (cs : List Char) : Except Fault Binary64 :=
    if isOneOf [".inf"] cs then .ok (.infinite false)
    else if isOneOf [".nan"] cs then .ok .nan
    else if cs.contains ':' then do
      let parts ← orNone ((parts ':' cs).mapM decimal?)
      sumSixtieths 1 (.ofNat 0) parts.reverse
    else orNone (decimal? cs)

end Arrears.Yaml.Numeral
