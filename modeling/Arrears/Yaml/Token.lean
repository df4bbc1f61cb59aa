import Arrears.Yaml.Scalar

/-! The tokens of YAML text, and how names, tags and directives are written. Blocks, which the text
shows by indentation alone, have tokens for both ends too. -/

set_option autoImplicit false

namespace Arrears.Yaml

inductive Token where
  | version (major : Nat)
  | handle (name start : String)
  | reserved
  | documentStart
  | documentEnd
  | openBlockSeq
  | openBlockMap
  | closeBlock
  | openBracket
  | closeBracket
  | openBrace
  | closeBrace
  | comma
  | entry
  | key
  | value
  | alias (name : String)
  | anchor (name : String)
  | tag (handle : Option String) (rest : String)
  | scalar (text : List Char) (plain : Bool)
  /-- The place where reading the text came to a halt. -/
  | halt (fault : Fault)
  deriving DecidableEq, Repr

def isWordChar (c : Char) : Bool := c.isAlphanum || c == '-' || c == '_'

def anchorName (cursor : Cursor) : Except Fault (String × Cursor) :=
  let (word, after) := cursor.span isWordChar
  let ended := atGap after.rest || after.peek?.any fun c => "?:,]\x7d%@`".toList.contains c
  if word.isEmpty || !ended then .error .malformed else .ok (String.ofList word, after)

/-! Tags -/

def isUriChar (c : Char) : Bool := c.isAlphanum || "-;/?:@&=+$,_.!~*'()[]%".toList.contains c

def charsOfBytes? (bytes : List UInt8) : Option (List Char) :=
  (String.fromUTF8? ⟨bytes.toArray⟩).map String.toList

def unescape? (bytes : List UInt8) : List Char → Option (List Char)
  | '%' :: first :: second :: rest => do
    let high ← Json.hexValue? first
    let low ← Json.hexValue? second
    unescape? (bytes ++ [UInt8.ofNat (16 * high + low)]) rest
  | '%' :: _ => none
  | c :: rest => do
    let front ← charsOfBytes? bytes
    let more ← unescape? [] rest
    return front ++ c :: more
  | [] => charsOfBytes? bytes

def uri (cursor : Cursor) : Except Fault (String × Cursor) :=
  let (written, after) := cursor.span isUriChar
  match unescape? [] written with
  | some cs => if written.isEmpty then .error .malformed else .ok (String.ofList cs, after)
  | none => .error .malformed

/-- One exclamation mark, or two with a word between them that may be empty. -/
def tagHandle (cursor : Cursor) : Except Fault (String × Cursor) :=
  if !cursor.starts '!' then .error .malformed
  else if cursor.next.starts ' ' then .ok ("!", cursor.next)
  else
    let (word, after) := cursor.next.span isWordChar
    if after.starts '!' then .ok (String.ofList ('!' :: word ++ ['!']), after.next)
    else .error .malformed

def tagParts (cursor : Cursor) : Except Fault (Option String × String × Cursor) :=
  if cursor.next.starts '<' then do
    let (rest, after) ← uri (cursor.skip 2)
    if after.starts '>' then return (none, rest, after.next) else .error .malformed
  else if atGap cursor.next.rest then .ok (none, "!", cursor.next)
  else if (cursor.next.rest.takeWhile fun c => !atBlank [c]).contains '!' then do
    let (handle, after) ← tagHandle cursor
    let (rest, after) ← uri after
    return (some handle, rest, after)
  else do
    let (rest, after) ← uri cursor.next
    return (some "!", rest, after)

def tag (cursor : Cursor) : Except Fault (Token × Cursor) := do
  let (handle, rest, after) ← tagParts cursor
  if atBlank after.rest then return (.tag handle rest, after) else .error .malformed

/-! Directives -/

def number (cursor : Cursor) : Except Fault (Nat × Cursor) :=
  let (digits, after) := cursor.span Char.isDigit
  if digits.isEmpty then .error .malformed else .ok (Text.ofDigits digits, after)

def versionDirective (cursor : Cursor) : Except Fault (Token × Cursor) := do
  let (major, after) ← number (cursor.dropWhile (· == ' '))
  if !after.starts '.' then .error .malformed
  let (_, after) ← number after.next
  if atBlank after.rest then return (.version major, after) else .error .malformed

def handleDirective (cursor : Cursor) : Except Fault (Token × Cursor) := do
  let (name, after) ← tagHandle (cursor.dropWhile (· == ' '))
  if !after.starts ' ' then .error .malformed
  let (start, after) ← uri (after.dropWhile (· == ' '))
  if atBlank after.rest then return (.handle name start, after) else .error .malformed

/-- The line behind a percent sign. Directives of other names are let pass. -/
def directive (cursor : Cursor) : Except Fault (Token × Cursor) := do
  let (word, after) := cursor.span isWordChar
  if word.isEmpty || !atBlank after.rest then .error .malformed
  let (token, after) ←
    if word = "YAML".toList then versionDirective after
    else if word = "TAG".toList then handleDirective after
    else .ok (.reserved, after.dropWhile fun c => !isBreak c)
  match after.endLine? with
  | some next => return (token, next)
  | none => .error .malformed

end Arrears.Yaml
