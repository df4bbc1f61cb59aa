import Arrears.Number.Basic
import Arrears.Text.Code

/-! The tokens of JSON text. Reading goes character by character with what has been read of the
current token in hand, and stops at the first character that no token admits. -/

set_option autoImplicit false

namespace Arrears.Json

inductive Token where
  | openArray
  | closeArray
  | openObject
  | closeObject
  | comma
  | colon
  | null
  | bool (b : Bool)
  | str (s : String)
  | int (n : Int)
  /-- A number with a fraction or an exponent: its sign, its digits, and their power of ten. -/
  | fraction (negative : Bool) (coefficient : Nat) (exponent : Int)
  | binary (x : Binary64)
  | bad
  deriving DecidableEq, Repr

/-- What has been read of the current token, last character first. Inside a string, `high` is a
surrogate that waits for its partner. -/
inductive Mode where
  | between
  | atom (read : List Char)
  | text (read : List Char) (high : Option Nat)
  | escape (read : List Char) (high : Option Nat)
  | code (read : List Char) (high : Option Nat) (value count : Nat)
  | stopped
  deriving DecidableEq, Repr

/-- Sign, digits, and what follows them; a leading zero stands alone. -/
def splitWhole? (cs : List Char) : Option (List Char × List Char) :=
  let (sign, rest) := match cs with
    | '-' :: rest => (['-'], rest)
    | rest => ([], rest)
  match rest with
  | '0' :: rest => some (sign ++ ['0'], rest)
  | rest =>
    if (rest.takeWhile Char.isDigit).isEmpty then none
    else some (sign ++ rest.takeWhile Char.isDigit, rest.dropWhile Char.isDigit)

-- A point and at least one digit, or nothing.
def splitFraction (cs : List Char) : List Char × List Char :=
  match cs with
  | '.' :: rest =>
    if (rest.takeWhile Char.isDigit).isEmpty then ([], cs)
    else ('.' :: rest.takeWhile Char.isDigit, rest.dropWhile Char.isDigit)
  | _ => ([], cs)

-- A mark, perhaps a sign, and at least one digit, or nothing.
def splitPower (cs : List Char) : List Char × List Char :=
  match cs with
  | mark :: rest =>
    if mark = 'e' ∨ mark = 'E' then
      let (sign, digits) := match rest with
        | '-' :: digits => (['-'], digits)
        | '+' :: digits => (['+'], digits)
        | digits => ([], digits)
      if (digits.takeWhile Char.isDigit).isEmpty then ([], cs)
      else (mark :: sign ++ digits.takeWhile Char.isDigit, digits.dropWhile Char.isDigit)
    else ([], cs)
  | [] => ([], cs)

def readInt (cs : List Char) : Int :=
  let (negative, digits) := Decimal.splitSign cs
  Decimal.signed negative (Text.ofDigits digits)

/-- The number at the front of an atom, and a bad token for anything behind it. -/
def numberTokens (cs : List Char) : List Token :=
  match splitWhole? cs with
  | none => [.bad]
  | some (whole, rest) =>
    let (places, rest) := splitFraction rest
    let (power, rest) := splitPower rest
    let token :=
      if places.isEmpty && power.isEmpty then Token.int (readInt whole) else
        let (negative, digits) := Decimal.splitSign (whole ++ places ++ power)
        match Decimal.readScaled? digits with
        | some (coefficient, exponent) => .fraction negative coefficient exponent
        | none => .bad
    if rest.isEmpty then [token] else [token, .bad]

def atomTokens (cs : List Char) : List Token :=
  if cs = "null".toList then [.null]
  else if cs = "true".toList then [.bool true]
  else if cs = "false".toList then [.bool false]
  else if cs = "NaN".toList then [.binary .nan]
  else if cs = "Infinity".toList then [.binary (.infinite false)]
  else if cs = "-Infinity".toList then [.binary (.infinite true)]
  else numberTokens cs

def punctuation? (c : Char) : Option Token :=
  match c with
  | '[' => some .openArray
  | ']' => some .closeArray
  | '\x7b' => some .openObject
  | '\x7d' => some .closeObject
  | ',' => some .comma
  | ':' => some .colon
  | _ => none

def isSpace (c : Char) : Bool := c == ' ' || c == '\t' || c == '\n' || c == '\r'

def start (c : Char) : List Token × Mode :=
  match punctuation? c with
  | some token => ([token], .between)
  | none =>
    if isSpace c then ([], .between)
    else if c = '"' then ([], .text [] none)
    else ([], .atom [c])

def hexValue? (c : Char) : Option Nat :=
  if c.isDigit then some (c.toNat - '0'.toNat)
  else if 'a' ≤ c ∧ c ≤ 'f' then some (c.toNat - 'a'.toNat + 10)
  else if 'A' ≤ c ∧ c ≤ 'F' then some (c.toNat - 'A'.toNat + 10)
  else none

def push (code : Nat) (read : List Char) : List Char := (Text.ofCode code).reverse ++ read

-- What was read, with a surrogate whose partner did not come.
def settle (read : List Char) (high : Option Nat) : List Char :=
  match high with
  | some unit => push unit read
  | none => read

def afterUnit (read : List Char) (high : Option Nat) (unit : Nat) : Mode :=
  match high with
  | some first =>
    if Text.isLow unit then
      .text (push (0x10000 + (first - 0xD800) * 0x400 + (unit - 0xDC00)) read) none
    else if Text.isHigh unit then .text (push first read) (some unit)
    else .text (push unit (push first read)) none
  | none => if Text.isHigh unit then .text read (some unit) else .text (push unit read) none

def escaped? (c : Char) : Option Char :=
  match c with
  | '"' => some '"'
  | '\\' => some '\\'
  | '/' => some '/'
  | 'b' => some '\x08'
  | 'f' => some '\x0c'
  | 'n' => some '\n'
  | 'r' => some '\r'
  | 't' => some '\t'
  | _ => none

def step (mode : Mode) (c : Char) : List Token × Mode :=
  match mode with
  | .between => start c
  | .atom read =>
    if (punctuation? c).isSome || isSpace c || c == '"' then
      let (tokens, mode) := start c
      (atomTokens read.reverse ++ tokens, mode)
    else ([], .atom (c :: read))
  | .text read high =>
    if c = '\\' then ([], .escape read high)
    else if c = '"' then ([.str (String.ofList (settle read high).reverse)], .between)
    else if c < ' ' then ([.bad], .stopped)
    else ([], .text (c :: settle read high) none)
  | .escape read high =>
    if c = 'u' then ([], .code read high 0 0) else
      match escaped? c with
      | some c => ([], .text (c :: settle read high) none)
      | none => ([.bad], .stopped)
  | .code read high value count =>
    match hexValue? c with
    | none => ([.bad], .stopped)
    | some digit =>
      if count = 3 then ([], afterUnit read high (16 * value + digit))
      else ([], .code read high (16 * value + digit) (count + 1))
  | .stopped => ([], .stopped)

def finish : Mode → List Token
  | .between => []
  | .atom read => atomTokens read.reverse
  | .stopped => []
  | _ => [.bad]

def tokensFrom (mode : Mode) : List Char → List Token
  | [] => finish mode
  | c :: cs => (step mode c).1 ++ tokensFrom (step mode c).2 cs

def tokens (cs : List Char) : List Token := tokensFrom .between cs

end Arrears.Json
