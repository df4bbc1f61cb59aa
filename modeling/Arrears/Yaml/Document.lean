import Arrears.Yaml.Merge
import Arrears.Yaml.SetOrder

/-! The values of a document. Each node has one value, however many places refer to it, and a value
may be inside itself. Values are found level by level, and what is wrong with one is found when its
turn comes. Of equal keys in a mapping the first gives the place and the last the value. -/

set_option autoImplicit false

namespace Arrears.Yaml

/-! Scalars -/

def truthWords : List (String × Bool) :=
  [("yes", true), ("no", false), ("true", true), ("false", false), ("on", true), ("off", false)]

def truth (text : List Char) : Except Fault Bool :=
  let word := String.ofList (Text.lower text)
  match Assoc.get? word truthWords with
  | some b => .ok b
  | none => .error (.unknownWord word)

def bytesOf (text : List Char) : Except Fault (List UInt8) :=
  if text.all fun c => decide (c.toNat < 128) then
    match Text.ofBase64? text with
    | some row => .ok row
    | none => .error .malformed
  else .error .malformed

def ofText (tag : Tag) (text : List Char) : Except Fault Yaml :=
  match tag with
  | .null => .ok null
  | .bool => (truth text).map bool
  | .int => (Numeral.int text).map fun n => num (.int n)
  | .float => (Numeral.float text).map fun x => num (.binary x)
  | .time => TimeText.value text
  | .str => .ok (str (String.ofList text))
  | .bytes => (bytesOf text).map bytes
  | .seq | .map | .set | .pairs | .merge | .value | .unknown => .error .malformed

namespace Graph

/-- The text of a node. A mapping has the text of its value, which the key `=` names; `depth` bounds
how many such mappings may be inside each other. -/
def textAt (graph : Graph) : Nat → Nat → Except Fault (List Char)
  | 0, _ => .error .endless
  | depth + 1, place =>
    match graph[place]? with
    | some ⟨_, .scalar text⟩ => .ok text
    | some ⟨_, .map entries⟩ =>
      match entries.find? fun entry => graph.hasTag .value entry.1 with
      | some (_, value) => textAt graph depth value
      | none => .error .malformed
    | _ => .error .malformed

def plainValue (graph : Graph) (place : Nat) (node : Node) : Except Fault Yaml :=
  if !node.tag.hasText then .error .malformed else do
    let text ← graph.textAt (graph.size + 1) place
    match node.tag, node.content with
    | .time, .map _ => .error .timeInMapping
    | tag, _ => ofText tag text

end Graph

/-! Collections -/

/-- A key of a mapping. What is no number is like itself only: `origin` is the node that it came
from, or nothing for the one that has a name. -/
structure Key where
  value : Yaml
  origin : Option Nat

/-- Whether two keys of a mapping are one: numbers are compared by value, with truth values as one
and zero, and times by the instant if both tell their distance from universal time. -/
def Key.same (left right : Key) : Bool :=
  match left.value, right.value with
  | null, null => true
  | bool b, bool c => b == c
  | bool b, num n | num n, bool b => Number.eqv (.int b.toNat) n
  | num m, num n =>
    Number.eqv m n || m == .binary .nan && n == .binary .nan && left.origin == right.origin
  | str s, str t => s == t
  | date d, date e => d == e
  | time t, time u => t.offset.isSome == u.offset.isSome && t.instant == u.instant
  | bytes row, bytes other => row == other
  | _, _ => false

inductive Cell where
  | plain (value : Yaml)
  | seq (items : List Nat)
  | map (entries : List (Key × Nat))
  | set (keys : List Key)
  | pairs (entries : List (Nat × Nat))

/-- The nodes of a document, what is known of their values, and those whose parts have yet to be
looked at, last first. -/
structure Survey where
  graph : Graph
  depth : Nat
  cells : Array (Option Cell)
  waiting : List Nat

namespace Survey

def start (graph : Graph) : Survey :=
  ⟨graph, graph.mergeCount + 1, Array.replicate graph.size none, []⟩

def cellAt? (survey : Survey) (place : Nat) : Option Cell := survey.cells[place]?.join

def setCell (survey : Survey) (place : Nat) (cell : Cell) : Survey :=
  { survey with cells := survey.cells.setIfInBounds place (some cell) }

def await (survey : Survey) (place : Nat) (cell : Cell) : Survey :=
  { survey.setCell place cell with waiting := place :: survey.waiting }

def visit (survey : Survey) (place : Nat) : Except Fault Survey :=
  match survey.cellAt? place, survey.graph[place]? with
  | some _, _ => .ok survey
  | none, none => .error .malformed
  | none, some node =>
    match node.tag with
    | .seq => .ok (survey.await place (.seq []))
    | .map => .ok (survey.await place (.map []))
    | .set => .ok (survey.await place (.set []))
    | .pairs => .ok (survey.await place (.pairs []))
    | _ => (survey.graph.plainValue place node).map fun value => survey.setCell place (.plain value)

def key (survey : Survey) (place : Nat) : Except Fault Key :=
  match survey.cellAt? place, survey.graph[place]? with
  | some (.plain value), some ⟨_, .scalar text⟩ =>
    .ok ⟨value, if Numeral.isNamedNan text then none else some place⟩
  | some (.plain value), _ => .ok ⟨value, some place⟩
  | _, _ => .error .malformed

def putEntry (key : Key) (value : Nat) : List (Key × Nat) → List (Key × Nat)
  | [] => [(key, value)]
  | (k, v) :: rest => if k.same key then (k, value) :: rest else (k, v) :: putEntry key value rest

def mapping (survey : Survey) (place : Nat) : Except Fault (Survey × List (Key × Nat)) := do
  let graph ← survey.graph.merge survey.depth place
  (graph.entriesAt place).foldlM (fun (survey, entries) (first, second) => do
    let survey ← survey.visit first
    let key ← survey.key first
    let survey ← survey.visit second
    return (survey, putEntry key second entries)) ({ survey with graph }, [])

/-- An item of a list of pairs: a mapping of one entry. -/
def pair (survey : Survey) (place : Nat) : Except Fault (Survey × (Nat × Nat)) :=
  match survey.graph[place]? with
  | some ⟨_, .map [(first, second)]⟩ => do
    let survey ← survey.visit first
    let survey ← survey.visit second
    return (survey, (first, second))
  | _ => .error .malformed

def expand (survey : Survey) (place : Nat) : Except Fault Survey :=
  match survey.graph[place]? with
  | some ⟨.seq, .seq items⟩ => do
    let survey ← items.foldlM visit survey
    return survey.setCell place (.seq items)
  | some ⟨.map, .map _⟩ => do
    let (survey, entries) ← survey.mapping place
    return survey.setCell place (.map entries)
  | some ⟨.set, .map _⟩ => do
    let (survey, entries) ← survey.mapping place
    return survey.setCell place (.set (entries.map (·.1)))
  | some ⟨.pairs, .seq items⟩ => do
    let (survey, entries) ← items.foldlM (fun (survey, entries) item => do
      let (survey, entry) ← survey.pair item
      return (survey, entries ++ [entry])) (survey, [])
    return survey.setCell place (.pairs entries)
  | _ => .error .malformed

/-- Goes on level by level, for at most so many levels; each has a node that none before it had. -/
def finish : Nat → Survey → Except Fault Survey
  | 0, survey => .ok survey
  | levels + 1, survey =>
    if survey.waiting.isEmpty then .ok survey else do
      let survey ← survey.waiting.reverse.foldlM expand { survey with waiting := [] }
      finish levels survey

end Survey

/-! Documents -/

structure Document where
  cells : Array (Option Cell)
  root : Nat

namespace Document

def cellAt? (document : Document) (place : Nat) : Option Cell := document.cells[place]?.join

/-- A value as it is seen from the places in `outside`, which it is inside of. -/
def valueWithin (document : Document) : Nat → List Nat → Nat → Yaml
  | 0, _, _ => null
  | depth + 1, outside, place =>
    let part := document.valueWithin depth (place :: outside)
    match document.cellAt? place with
    | none => null
    | some (.plain value) => value
    | some (.set keys) => set (setOrder (keys.map Key.value))
    | some (.seq items) => if place ∈ outside then again false else seq (items.map part)
    | some (.pairs entries) =>
      if place ∈ outside then again false
      else pairs (entries.map fun (first, second) => (part first, part second))
    | some (.map entries) =>
      if place ∈ outside then again true
      else map (entries.map fun (key, value) => (key.value, part value))

def valueAt (document : Document) (place : Nat) : Yaml :=
  document.valueWithin (document.cells.size + 1) [] place

def entriesAt? (document : Document) (place : Nat) : Option (List (Yaml × Nat)) :=
  match document.cellAt? place with
  | some (.map entries) => some (entries.map fun (key, value) => (key.value, value))
  | _ => none

def isVacantAt (document : Document) (place : Nat) : Bool :=
  match document.cellAt? place with
  | none => true
  | some (.plain value) => value.isVacant
  | some (.set keys) => keys.isEmpty
  | some (.seq items) => items.isEmpty
  | some (.pairs entries) => entries.isEmpty
  | some (.map entries) => entries.isEmpty

def ofGraph (graph : Graph) (root : Nat) : Except Fault Document := do
  let survey ← (Survey.start graph).visit root
  let survey ← survey.finish (graph.size + 1)
  return ⟨survey.cells, root⟩

end Document

/-! Texts -/

def plainBreaks : List Char → List Char
  | [] => []
  | '\r' :: '\n' :: rest => '\n' :: plainBreaks rest
  | c :: rest => (if c = '\r' then '\n' else c) :: plainBreaks rest

/-- Control characters other than tabs and line ends, and two code points that stand for none, may
not occur. -/
def isAllowed (c : Char) : Bool :=
  c == '\t' || c == '\n' || c == '\r' || decide (' ' ≤ c) && decide (c ≤ '~') || c == '\x85' ||
    decide ('\xa0' ≤ c) && decide (c ≤ '\ufffd') || decide (0x10000 ≤ c.toNat)

/-- Reads a text that holds one document, or nothing, which stands for null. -/
def read (text : String) : Except Fault Document :=
  let cs := plainBreaks text.toList
  if !cs.all isAllowed then .error .malformed else
    match Node.ofTokens? (tokens cs) with
    | .error fault => .error fault
    | .ok none => .ok ⟨#[some (.plain null)], 0⟩
    | .ok (some (graph, root)) => Document.ofGraph graph root

end Arrears.Yaml
