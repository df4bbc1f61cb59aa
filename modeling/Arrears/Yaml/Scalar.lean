import Arrears.Assoc
import Arrears.Json.Token
import Arrears.Yaml.Cursor
import Arrears.Yaml.Fault

/-! Scalars of YAML text: plain ones, quoted ones, and blocks of lines. A single line break inside a
plain or quoted scalar folds into a space, and of several the first is dropped. -/

set_option autoImplicit false

namespace Arrears.Yaml

-- The text for a line break and the breaks behind it.
def fold (first : Char) (more : List Char) : List Char :=
  if first ≠ '\n' then first :: more
  else if more.isEmpty then [' ']
  else more

/-! Plain scalars -/

def plainRun (inFlow : Bool) : List Char → Nat
  | [] => 0
  | c :: rest =>
    if isPad c || isBreak c then 0
    else if c == ':' && (atGap rest ||
      inFlow && rest.head?.any fun d => ",[]\x7b\x7d".toList.contains d) then 0
    else if inFlow && ",?[]\x7b\x7d".toList.contains c then 0
    else plainRun inFlow rest + 1

/-- What parts two runs of a plain scalar; no text ends it. The flag tells of a line break. -/
def plainGap (cursor : Cursor) : List Char × Bool × Cursor :=
  let (blanks, after) := cursor.span (· == ' ')
  match after.lineBreak? with
  | none => (blanks, false, after)
  | some (c, after) =>
    if after.atAnyDocumentMark then ([], true, after) else
      let (more, last) := plainBreaks after
      if last.atAnyDocumentMark && last.column == 0 && !more.isEmpty then ([], true, last)
      else (fold c more, true, last)
where
  plainBreaks (cursor : Cursor) : List Char × Cursor :=
    let padded := cursor.dropWhile (· == ' ')
    match padded.lineBreak? with
    | none => ([], padded)
    | some (c, after) =>
      if after.atAnyDocumentMark then ([c], after)
      else if _h : after.rest.length < cursor.rest.length then
        let (more, last) := plainBreaks after
        (c :: more, last)
      else ([c], after)
  termination_by cursor.rest.length

/-- The text of a plain scalar, and whether a line break came behind its last run. Outside of
brackets its lines must be indented. -/
def plain (inFlow : Bool) (indent : Int) (cursor : Cursor) : List Char × Bool × Cursor :=
  let count := if cursor.starts '#' then 0 else plainRun inFlow cursor.rest
  let run := cursor.rest.take count
  let after := cursor.skip count
  if count = 0 then ([], false, cursor) else
    let (gap, broken, next) := plainGap after
    -- a comment needs a gap before it; without a gap the sign belongs to the scalar
    if gap.isEmpty || next.starts '#' || (!inFlow && decide ((next.column : Int) < indent)) then
      (run, broken, next)
    else if _h : next.rest.length < cursor.rest.length then
      let (more, brokenAtEnd, last) := plain inFlow indent next
      if more.isEmpty then (run, broken, last) else (run ++ gap ++ more, brokenAtEnd, last)
    else (run, broken, next)
termination_by cursor.rest.length

/-! Quoted scalars -/

def escapes : List (Char × Char) :=
  [('0', '\x00'), ('a', '\x07'), ('b', '\x08'), ('t', '\t'), ('\t', '\t'), ('n', '\n'), ('v', '\x0b'),
    ('f', '\x0c'), ('r', '\r'), ('e', '\x1b'), (' ', ' '), ('"', '"'), ('\\', '\\'), ('/', '/'),
    ('N', '\x85'), ('_', '\xa0'), ('L', '\u2028'), ('P', '\u2029')]

def escapeWidth? (c : Char) : Option Nat :=
  match c with
  | 'x' => some 2
  | 'u' => some 4
  | 'U' => some 8
  | _ => none

def hexNumber? (cs : List Char) : Option Nat :=
  cs.foldl (fun n c => n.bind fun n => (Json.hexValue? c).map fun d => 16 * n + d) (some 0)

/-- What stands for a code point. Numbers beyond 31 bits are too large for one. -/
def codeText (code : Nat) : Except Fault (List Char) :=
  if code < 0x110000 then .ok (Text.ofCode code)
  else if code < 0x80000000 then .error .noSuchValue
  else .error .tooLarge

def quotedBreaks (cursor : Cursor) : Except Fault (List Char × Cursor) :=
  let padded := cursor.dropWhile isPad
  if cursor.atAnyDocumentMark then .error .malformed else
    match padded.lineBreak? with
    | none => .ok ([], padded)
    | some (c, after) =>
      if _h : after.rest.length < cursor.rest.length then
        match quotedBreaks after with
        | .ok (more, last) => .ok (c :: more, last)
        | .error fault => .error fault
      else .error .malformed
termination_by cursor.rest.length

/-- What stands behind a backslash. A line break behind one is dropped with the blanks after it. -/
def escape (cursor : Cursor) : Except Fault (List Char × Cursor) :=
  match cursor.rest with
  | [] => .error .malformed
  | c :: rest =>
    match Assoc.get? c escapes, escapeWidth? c with
    | some d, _ => .ok ([d], cursor.next)
    | none, some width =>
      if rest.length < width then .error .malformed else
        match hexNumber? (rest.take width) with
        | none => .error .malformed
        | some code => (codeText code).map fun written => (written, cursor.next.skip width)
    | none, none =>
      match cursor.lineBreak? with
      | none => .error .malformed
      | some (_, after) => quotedBreaks after

def quotedGap (cursor : Cursor) : Except Fault (List Char × Cursor) :=
  let (blanks, after) := cursor.span isPad
  if after.rest.isEmpty then .error .malformed else
    match after.lineBreak? with
    | none => .ok (blanks, after)
    | some (c, after) => (quotedBreaks after).map fun (more, last) => (fold c more, last)

def quoted (double : Bool) (cursor : Cursor) : Except Fault (List Char × Cursor) :=
  let quote := if double then '"' else '\''
  let onwards (front : List Char) (next : Cursor) : Except Fault (List Char × Cursor) :=
    if _h : next.rest.length < cursor.rest.length then
      match quoted double next with
      | .ok (more, last) => .ok (front ++ more, last)
      | .error fault => .error fault
    else .error .malformed
  match cursor.rest with
  | [] => .error .malformed
  | c :: rest =>
    if c = quote then
      if !double && rest.head? == some quote then onwards [quote] (cursor.skip 2)
      else .ok ([], cursor.next)
    else if double && c == '\\' then
      match escape cursor.next with
      | .ok (front, next) => onwards front next
      | .error fault => .error fault
    else if isPad c || isBreak c then
      match quotedGap cursor with
      | .ok (front, next) => onwards front next
      | .error fault => .error fault
    else
      let (run, next) := cursor.span fun d =>
        d != quote && !(double && d == '\\') && !isPad d && !isBreak d
      onwards run next
termination_by cursor.rest.length

/-! Blocks of lines -/

inductive Chomp where
  | one
  | none
  | all
  deriving DecidableEq

def chomp? (c : Char) : Option Chomp :=
  if c = '+' then some .all else if c = '-' then some .none else Option.none

def step? (c : Char) : Option Nat :=
  if c.isDigit && c != '0' then some (c.toNat - '0'.toNat) else none

def blockHeader (cursor : Cursor) : Chomp × Option Nat × Cursor :=
  match cursor.peek?.bind chomp?, cursor.peek?.bind step? with
  | some chomp, _ =>
    match cursor.next.peek?.bind step? with
    | some step => (chomp, some step, cursor.skip 2)
    | none => (chomp, none, cursor.next)
  | none, some step =>
    match cursor.next.peek?.bind chomp? with
    | some chomp => (chomp, some step, cursor.skip 2)
    | none => (.one, some step, cursor.next)
  | none, none => (.one, none, cursor)

def blockLead (cursor : Cursor) : List Char × Nat × Cursor :=
  let padded := cursor.dropWhile (· == ' ')
  match padded.lineBreak? with
  | none => ([], padded.column, padded)
  | some (c, after) =>
    if _h : after.rest.length < cursor.rest.length then
      let (more, width, last) := blockLead after
      (c :: more, max padded.column width, last)
    else ([c], padded.column, after)
termination_by cursor.rest.length

def indentTo (column : Nat) (cursor : Cursor) : Cursor :=
  cursor.skip ((cursor.rest.takeWhile (· == ' ')).take (column - cursor.column)).length

def blockLines (folded : Bool) (chomp : Chomp) (column : Nat) (lead : List Char) (cursor : Cursor) :
    List Char × Cursor :=
  if cursor.column ≠ column ∨ cursor.rest.isEmpty then
    (if chomp = .all then lead else [], cursor)
  else
    let (line, atEnd) := cursor.span fun c => !isBreak c
    let (ending, after) := match atEnd.lineBreak? with
      | some (c, after) => ([c], after)
      | none => ([], atEnd)
    let (more, next) := after.breaks (indentTo column)
    if next.column = column ∧ ¬next.rest.isEmpty then
      -- lines that are indented further keep their line breaks
      let flush := !(line.head?.any isPad) && !(next.rest.head?.any isPad)
      let joint :=
        if folded && ending == ['\n'] && flush then (if more.isEmpty then [' '] else []) else ending
      if _h : next.rest.length < cursor.rest.length then
        let (others, last) := blockLines folded chomp column more next
        (lead ++ line ++ joint ++ others, last)
      else (lead ++ line, next)
    else
      let tail := match chomp with
        | .none => []
        | .one => ending
        | .all => ending ++ more
      (lead ++ line ++ tail, next)
termination_by cursor.rest.length

def block (folded : Bool) (indent : Int) (cursor : Cursor) : Except Fault (List Char × Cursor) :=
  let (chomp, step, after) := blockHeader cursor
  if !atBlank after.rest then .error .malformed else
    match after.endLine? with
    | none => .error .malformed
    | some body =>
      let least := (max (indent + 1) 1).toNat
      match step with
      | some step =>
        let column := least + step - 1
        let (lead, first) := body.breaks (indentTo column)
        .ok (blockLines folded chomp column lead first)
      | none =>
        let (lead, width, first) := blockLead body
        .ok (blockLines folded chomp (max least width) lead first)

end Arrears.Yaml
