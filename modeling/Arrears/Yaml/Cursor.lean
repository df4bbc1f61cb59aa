/-! A place in a text, with its line and column. Reading goes forward only: a loop asks whether the
rest of the text got shorter, and since each round takes at least one character it always did. -/

set_option autoImplicit false

namespace Arrears.Yaml

structure Cursor where
  rest : List Char
  index : Nat
  line : Nat
  column : Nat

/-- Line breaks; the two separators of Unicode are kept as they are, all others become one. -/
def isBreak (c : Char) : Bool :=
  c == '\n' || c == '\r' || c == '\x85' || c == '\u2028' || c == '\u2029'

def isPad (c : Char) : Bool := c == ' ' || c == '\t'

-- Whether the text ends or a blank or a line break comes first.
def atGap (rest : List Char) : Bool :=
  match rest with
  | [] => true
  | c :: _ => isPad c || isBreak c

-- Whether the text ends or a space or a line break comes first.
def atBlank (rest : List Char) : Bool :=
  match rest with
  | [] => true
  | c :: _ => c == ' ' || isBreak c

def unbroken (cs : List Char) : List Char :=
  if cs.getLast? = some '\n' ∧ 1 < cs.length then cs.dropLast else cs

namespace Cursor

-- The start of a text, behind the mark of byte order that it may have.
def start (text : List Char) : Cursor :=
  ⟨if text.head? == some '\ufeff' then text.tail else text, 0, 0, 0⟩

def next (cursor : Cursor) : Cursor :=
  match cursor.rest with
  | [] => cursor
  | c :: rest =>
    if isBreak c && !(c == '\r' && rest.head? == some '\n') then ⟨rest, cursor.index + 1, cursor.line + 1, 0⟩
    else if c == '\ufeff' then ⟨rest, cursor.index + 1, cursor.line, cursor.column⟩
    else ⟨rest, cursor.index + 1, cursor.line, cursor.column + 1⟩

def skip (cursor : Cursor) : Nat → Cursor
  | 0 => cursor
  | n + 1 => cursor.next.skip n

def peek? (cursor : Cursor) : Option Char := cursor.rest.head?

def starts (cursor : Cursor) (c : Char) : Bool := cursor.peek? == some c

def span (cursor : Cursor) (test : Char → Bool) : List Char × Cursor :=
  let run := cursor.rest.takeWhile test
  (run, cursor.skip run.length)

def dropWhile (cursor : Cursor) (test : Char → Bool) : Cursor := (cursor.span test).2

def lineBreak? (cursor : Cursor) : Option (Char × Cursor) :=
  match cursor.rest with
  | '\r' :: '\n' :: _ => some ('\n', cursor.skip 2)
  | c :: _ => if isBreak c then some (if c == '\u2028' || c == '\u2029' then c else '\n', cursor.next) else none
  | [] => none

def endLine? (cursor : Cursor) : Option Cursor :=
  let padded := cursor.dropWhile (· == ' ')
  let last := if padded.starts '#' then padded.dropWhile fun c => !isBreak c else padded
  match last.lineBreak? with
  | some (_, after) => some after
  | none => if last.rest.isEmpty then some last else none

/-- A line that starts or ends a document: three equal marks with a gap behind them. -/
def atDocumentMark (cursor : Cursor) (mark : Char) : Bool :=
  cursor.rest.take 3 == [mark, mark, mark] && atGap (cursor.rest.drop 3)

def atAnyDocumentMark (cursor : Cursor) : Bool :=
  cursor.atDocumentMark '-' || cursor.atDocumentMark '.'

def breaks (pad : Cursor → Cursor) (cursor : Cursor) : List Char × Cursor :=
  let padded := pad cursor
  match padded.lineBreak? with
  | none => ([], padded)
  | some (c, after) =>
    if _h : after.rest.length < cursor.rest.length then
      let (more, last) := breaks pad after
      (c :: more, last)
    else ([c], after)
termination_by cursor.rest.length

end Cursor

end Arrears.Yaml
