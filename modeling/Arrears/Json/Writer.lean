import Arrears.Json.Basic
import Arrears.Text.Quoted

/-! JSON text without blanks, in plain characters: every other character is escaped, as a pair of
surrogates where it needs one. -/

set_option autoImplicit false

namespace Arrears.Json

open Text

def unitChars (unit : Nat) : List Char := '\\' :: 'u' :: hex 4 unit

def escapeChar (c : Char) : List Char :=
  if c = '"' ∨ c = '\\' then ['\\', c]
  else if c = '\n' then ['\\', 'n']
  else if c = '\r' then ['\\', 'r']
  else if c = '\t' then ['\\', 't']
  else if c = '\x0c' then ['\\', 'f']
  else if c = '\x08' then ['\\', 'b']
  else if ' ' ≤ c ∧ c ≤ '~' then [c]
  else if c.toNat < 0x10000 then unitChars c.toNat
  else
    let offset := c.toNat - 0x10000
    unitChars (0xD800 + offset / 0x400) ++ unitChars (0xDC00 + offset % 0x400)

/-- A half of a pair that stands alone is escaped as it is. -/
def escapeCode (code : Nat) : List Char :=
  if isHalf code then unitChars code else escapeChar (Char.ofNat code)

def stringChars (s : String) : List Char := '"' :: (codes s.toList).flatMap escapeCode ++ ['"']

def spelling : Binary64.Spelling := ⟨"Infinity", "NaN"⟩

def numberChars : Number → List Char
  | .int n => Number.intChars n
  | .binary x => x.chars spelling
  | .decimal d => d.chars

mutual

def chars : Json → List Char
  | null => "null".toList
  | bool b => if b then "true".toList else "false".toList
  | num n => numberChars n
  | str s => stringChars s
  | arr [] => "[]".toList
  | arr (item :: items) => '[' :: chars item ++ itemsChars items
  | obj [] => "\x7b\x7d".toList
  | obj ((key, value) :: members) =>
    '\x7b' :: stringChars key ++ ':' :: chars value ++ membersChars members

def itemsChars : List Json → List Char
  | [] => [']']
  | item :: items => ',' :: chars item ++ itemsChars items

def membersChars : List (String × Json) → List Char
  | [] => ['\x7d']
  | (key, value) :: members =>
    ',' :: stringChars key ++ ':' :: chars value ++ membersChars members

end

def toText (value : Json) : String := String.ofList value.chars

end Arrears.Json
