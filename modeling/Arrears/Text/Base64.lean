import Arrears.Text.Quoted

/-! Bytes: as signs of which each stands for six bits, and as they are displayed. -/

set_option autoImplicit false

namespace Arrears.Text

def base64Value? (c : Char) : Option Nat :=
  if 'A' ≤ c ∧ c ≤ 'Z' then some (c.toNat - 'A'.toNat)
  else if 'a' ≤ c ∧ c ≤ 'z' then some (c.toNat - 'a'.toNat + 26)
  else if c.isDigit then some (c.toNat - '0'.toNat + 52)
  else if c = '+' then some 62
  else if c = '/' then some 63
  else none

/-- The bytes of a row of signs, four for three bytes. `place` signs of the four at hand have been
read, the bits of the last are partly left over, and `fill` equal signs came behind them. Equal
signs that fill the four up end the row; all other characters are passed over. -/
def base64From (place left fill : Nat) : List Char → Option (List UInt8)
  | [] => if place = 0 then some [] else none
  | c :: rest =>
    if c = '=' then
      if place < 2 then base64From place left fill rest
      else if 4 ≤ place + fill + 1 then some []
      else base64From place left (fill + 1) rest
    else
      match base64Value? c, place with
      | none, _ => base64From place left fill rest
      | some value, 0 => base64From 1 value 0 rest
      | some value, 1 => (base64From 2 (value % 16) 0 rest).map (UInt8.ofNat (left * 4 + value / 16) :: ·)
      | some value, 2 => (base64From 3 (value % 4) 0 rest).map (UInt8.ofNat (left * 16 + value / 4) :: ·)
      | some value, _ => (base64From 0 0 0 rest).map (UInt8.ofNat (left * 64 + value) :: ·)

def ofBase64? (cs : List Char) : Option (List UInt8) := base64From 0 0 0 cs

def displayByte (quote : Char) (byte : UInt8) : List Char :=
  if byte < 128 then displayChar quote (Char.ofNat byte.toNat) else '\\' :: 'x' :: hex 2 byte.toNat

def displayBytes (bytes : List UInt8) : List Char :=
  let quote := displayQuote (bytes.map fun byte => Char.ofNat byte.toNat)
  'b' :: quote :: bytes.flatMap (displayByte quote) ++ [quote]

end Arrears.Text
