import Arrears.Text.Code
import Arrears.Text.Printable

/-! Quoted display of a text inside a message: single quotes unless only those occur inside,
and an escape for each character that cannot be shown. -/

set_option autoImplicit false

namespace Arrears.Text

def hex (width n : Nat) : List Char :=
  match width with
  | 0 => []
  | width + 1 => hex width (n / 16) ++ [Nat.digitChar (n % 16)]

def displayChar (quote c : Char) : List Char :=
  if c = quote ∨ c = '\\' then ['\\', c]
  else if c = '\n' then ['\\', 'n']
  else if c = '\r' then ['\\', 'r']
  else if c = '\t' then ['\\', 't']
  else if isPrintable c then [c]
  else if c.toNat < 0x100 then '\\' :: 'x' :: hex 2 c.toNat
  else if c.toNat < 0x10000 then '\\' :: 'u' :: hex 4 c.toNat
  else '\\' :: 'U' :: hex 8 c.toNat

def displayCode (quote : Char) (code : Nat) : List Char :=
  if isHalf code then '\\' :: 'u' :: hex 4 code else displayChar quote (Char.ofNat code)

/-- Double quotes enclose a text that holds single quotes and no double ones. -/
def displayQuote (cs : List Char) : Char :=
  if '\'' ∈ cs ∧ '"' ∉ cs then '"' else '\''

def display (cs : List Char) : List Char :=
  let quote := displayQuote cs
  quote :: (codes cs).flatMap (displayCode quote) ++ [quote]

def displayString (s : String) : String := String.ofList (display s.toList)

end Arrears.Text
