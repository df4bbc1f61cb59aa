import Arrears.Yaml.Token

/-! From text to tokens. Indentation opens and closes blocks, except inside brackets. A key shows
only by the colon behind it: its token, and the start of a mapping, are put in at the place where
the key began. -/

set_option autoImplicit false

namespace Arrears.Yaml

/-- A place where a key may have begun: the tokens before it, and where it stands. A required one
is at the column of a block, where nothing but a key may be. -/
structure KeyStart where
  before : Nat
  required : Bool
  index : Nat
  line : Nat
  column : Nat

/-- What is known behind some tokens: the tokens, last first; the columns of the open blocks,
innermost first; whether a key may begin here; and for each open bracket, and for the outside, the
key that may have begun last. -/
structure Layout where
  tokens : List Token := []
  columns : List Nat := []
  keyAllowed : Bool := true
  keyStart : Option KeyStart := none
  outside : List (Option KeyStart) := []

namespace Layout

def inFlow (layout : Layout) : Bool := !layout.outside.isEmpty

-- The column of the innermost block; the text itself lies left of all columns.
def indent (layout : Layout) : Int :=
  match layout.columns with
  | [] => -1
  | column :: _ => column

def push (layout : Layout) (token : Token) : Layout := { layout with tokens := token :: layout.tokens }

-- A key stands on one line and has at most 1024 characters.
def isStale (cursor : Cursor) (key : KeyStart) : Bool :=
  key.line != cursor.line || decide (1024 < cursor.index - key.index)

def dropStale (layout : Layout) (cursor : Cursor) : Except Fault Layout :=
  let stale := isStale cursor
  if (layout.keyStart :: layout.outside).any fun key => key.any fun key => stale key && key.required then
    .error .malformed
  else
    let kept (key : Option KeyStart) := key.filter fun key => !stale key
    .ok { layout with keyStart := kept layout.keyStart, outside := layout.outside.map kept }

def dropKey (layout : Layout) : Except Fault Layout :=
  if layout.keyStart.any (·.required) then .error .malformed
  else .ok { layout with keyStart := none }

def noteKey (layout : Layout) (cursor : Cursor) : Except Fault Layout :=
  if layout.keyAllowed then do
    let layout ← layout.dropKey
    let required := !layout.inFlow && layout.indent == cursor.column
    return { layout with
      keyStart := some ⟨layout.tokens.length, required, cursor.index, cursor.line, cursor.column⟩ }
  else .ok layout

def closeTo (layout : Layout) (column : Int) : Layout :=
  if layout.inFlow then layout else
    let isRight (other : Nat) : Bool := decide (column < other)
    { layout with
      tokens := (layout.columns.takeWhile isRight).map (fun _ => .closeBlock) ++ layout.tokens
      columns := layout.columns.dropWhile isRight }

def openAt (layout : Layout) (token : Token) (before column : Nat) : Layout :=
  if layout.inFlow || decide ((column : Int) ≤ layout.indent) then layout
  else { layout with
    tokens := layout.tokens.insertIdx (layout.tokens.length - before) token
    columns := column :: layout.columns }

def finish (layout : Layout) : Except Fault (List Token) :=
  (layout.closeTo (-1)).dropKey.map fun layout => layout.tokens.reverse

/-- The tokens up to a fault. Those from the first key that may have begun on are still in doubt. -/
def haltWith (layout : Layout) (fault : Fault) : List Token :=
  let starts := (layout.keyStart :: layout.outside).filterMap fun key => key.map (·.before)
  layout.tokens.reverse.take (starts.foldl min layout.tokens.length) ++ [.halt fault]

def acceptMark (layout : Layout) (token : Token) : Except Fault Layout := do
  let layout ← (layout.closeTo (-1)).dropKey
  return { layout.push token with keyAllowed := false }

def acceptOpen (layout : Layout) (token : Token) (cursor : Cursor) : Except Fault Layout := do
  let layout ← layout.noteKey cursor
  return { layout.push token with
    keyAllowed := true, keyStart := none, outside := layout.keyStart :: layout.outside }

def acceptClose (layout : Layout) (token : Token) : Except Fault Layout := do
  let layout ← layout.dropKey
  match layout.outside with
  | [] => .error .malformed
  | keyStart :: outside => return { layout.push token with keyAllowed := false, keyStart, outside }

def acceptComma (layout : Layout) : Except Fault Layout := do
  let layout ← layout.dropKey
  return { layout.push .comma with keyAllowed := true }

def acceptSign (layout : Layout) (token block : Token) (keyAllowed : Bool) (cursor : Cursor) :
    Except Fault Layout :=
  if !layout.inFlow && !layout.keyAllowed then .error .malformed else do
    let layout ← (layout.openAt block layout.tokens.length cursor.column).dropKey
    return { layout.push token with keyAllowed }

def acceptColon (layout : Layout) (cursor : Cursor) : Except Fault Layout :=
  match layout.keyStart with
  | some key =>
    -- tokens read since the key began come after it
    let keyed := { layout with
      tokens := layout.tokens.insertIdx (layout.tokens.length - key.before) .key }
    let opened := keyed.openAt .openBlockMap key.before key.column
    .ok { opened.push .value with keyAllowed := false, keyStart := none }
  | none => layout.acceptSign .value .openBlockMap (!layout.inFlow) cursor

def acceptPart (layout : Layout) (cursor : Cursor) (read : Except Fault (Token × Cursor)) :
    Except Fault (Layout × Cursor) := do
  let layout ← layout.noteKey cursor
  let (token, next) ← read
  return ({ layout.push token with keyAllowed := false }, next)

def acceptPlain (layout : Layout) (cursor : Cursor) : Except Fault (Layout × Cursor) := do
  let layout ← layout.noteKey cursor
  let (text, broken, next) := plain layout.inFlow (layout.indent + 1) cursor
  return ({ layout.push (.scalar text true) with keyAllowed := broken }, next)

def acceptBlock (layout : Layout) (folded : Bool) (cursor : Cursor) :
    Except Fault (Layout × Cursor) := do
  let layout ← layout.dropKey
  let (text, next) ← block folded layout.indent cursor.next
  return ({ layout.push (.scalar text false) with keyAllowed := true }, next)

def quotedScalar (double : Bool) (cursor : Cursor) : Except Fault (Token × Cursor) := do
  let (text, next) ← quoted double cursor.next
  return (.scalar text false, next)

def signs : List Char := "-?:,[]\x7b\x7d#&*!|>'\"%@`".toList

/-- The next token. A dash, question mark or colon with no gap behind it begins a plain scalar, the
latter two outside brackets only. -/
def accept (layout : Layout) (cursor : Cursor) (c : Char) (rest : List Char) :
    Except Fault (Layout × Cursor) :=
  -- most signs are one character and need no more than their place in the layout
  let behind (count : Nat) (accepted : Except Fault Layout) : Except Fault (Layout × Cursor) :=
    accepted.map fun layout => (layout, cursor.skip count)
  let standsAlone := layout.inFlow || atGap rest
  if c == '%' && cursor.column == 0 then do
    let (token, next) ← directive cursor.next
    let layout ← layout.acceptMark token
    return (layout, next)
  else if cursor.column == 0 && cursor.atDocumentMark '-' then
    behind 3 (layout.acceptMark .documentStart)
  else if cursor.column == 0 && cursor.atDocumentMark '.' then
    behind 3 (layout.acceptMark .documentEnd)
  else if c == '[' then behind 1 (layout.acceptOpen .openBracket cursor)
  else if c == '\x7b' then behind 1 (layout.acceptOpen .openBrace cursor)
  else if c == ']' then behind 1 (layout.acceptClose .closeBracket)
  else if c == '\x7d' then behind 1 (layout.acceptClose .closeBrace)
  else if c == ',' then behind 1 layout.acceptComma
  else if c == '-' && atGap rest then
    behind 1 (layout.acceptSign .entry .openBlockSeq true cursor)
  else if c == '?' && standsAlone then
    behind 1 (layout.acceptSign .key .openBlockMap (!layout.inFlow) cursor)
  else if c == ':' && standsAlone then behind 1 (layout.acceptColon cursor)
  else if c == '*' then
    layout.acceptPart cursor
      ((anchorName cursor.next).map fun (name, next) => (.alias name, next))
  else if c == '&' then
    layout.acceptPart cursor
      ((anchorName cursor.next).map fun (name, next) => (.anchor name, next))
  else if c == '!' then layout.acceptPart cursor (tag cursor)
  else if (c == '|' || c == '>') && !layout.inFlow then layout.acceptBlock (c == '>') cursor
  else if c == '\'' || c == '"' then layout.acceptPart cursor (quotedScalar (c == '"') cursor)
  else if !signs.contains c && c != '\t' || "-?:".toList.contains c && !atGap rest then
    layout.acceptPlain cursor
  else .error .malformed

def skipGap (cursor : Cursor) : Bool × Cursor :=
  let padded := cursor.dropWhile (· == ' ')
  let ended := if padded.starts '#' then padded.dropWhile fun c => !isBreak c else padded
  match ended.lineBreak? with
  | none => (false, ended)
  | some (_, after) =>
    if _h : after.rest.length < cursor.rest.length then (true, (skipGap after).2) else (true, after)
termination_by cursor.rest.length

def readOn (layout : Layout) (cursor : Cursor) : List Token :=
  let (broken, here) := skipGap cursor
  let keyAllowed := layout.keyAllowed || broken && !layout.inFlow
  match { layout with keyAllowed }.dropStale here with
  | .error fault => layout.haltWith fault
  | .ok kept =>
    let closed := kept.closeTo here.column
    match here.rest with
    | [] =>
      match closed.finish with
      | .error fault => layout.haltWith fault
      | .ok tokens => tokens
    | c :: rest =>
      match closed.accept here c rest with
      | .error fault => layout.haltWith fault
      | .ok (layout, next) =>
        if _h : next.rest.length < cursor.rest.length then readOn layout next
        else layout.haltWith .malformed
termination_by cursor.rest.length

end Layout

def tokens (text : List Char) : List Token := Layout.readOn {} (.start text)

end Arrears.Yaml
