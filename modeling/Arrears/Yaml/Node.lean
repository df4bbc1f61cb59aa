import Arrears.Yaml.Layout
import Arrears.Yaml.Tag

/-! The nodes of a document. A node may carry a name by which other places refer to it, and a tag
that says what it stands for. Where a value is left out there is an empty scalar. -/

set_option autoImplicit false

namespace Arrears.Yaml

inductive Content where
  | scalar (text : List Char)
  | seq (items : List Nat)
  | map (entries : List (Nat × Nat))

structure Node where
  tag : Tag
  content : Content

/-- The nodes of a document. One may be part of several others, and of itself. -/
abbrev Graph := Array Node

namespace Node

def absent : Node := ⟨.null, .scalar []⟩

abbrev Handles := List (String × String)

structure Drawing where
  nodes : Graph := #[]
  names : List (String × Nat) := []

/-- Makes room for a node that is about to be read; no two nodes have the same name. -/
def Drawing.reserve (drawing : Drawing) (name : Option String) : Except Fault Drawing :=
  let nodes := drawing.nodes.push absent
  match name with
  | none => .ok { drawing with nodes }
  | some name =>
    if (Assoc.get? name drawing.names).isSome then .error .malformed
    else .ok ⟨nodes, (name, drawing.nodes.size) :: drawing.names⟩

def Drawing.fill (drawing : Drawing) (place : Nat) (node : Node) : Drawing :=
  { drawing with nodes := drawing.nodes.setIfInBounds place node }

def Drawing.single (drawing : Drawing) (key value : Nat) : Drawing :=
  { drawing with nodes := drawing.nodes.push ⟨.map, .map [(key, value)]⟩ }

structure Reading (α : Type) (tokens : List Token) where
  found : α
  drawing : Drawing
  rest : List Token
  le : rest.length ≤ tokens.length

def leftOut (drawing : Drawing) (tokens : List Token) : Reading Nat tokens :=
  ⟨drawing.nodes.size, { drawing with nodes := drawing.nodes.push absent }, tokens, Nat.le_refl _⟩

def unexpected (tokens : List Token) : Fault :=
  match tokens with
  | .halt fault :: _ => fault
  | _ => .malformed

def Reading.upTo {α : Type} {tokens : List Token} (reading : Reading α tokens) (last : Token) :
    Except Fault (Reading α tokens) :=
  match split : reading.rest with
  | token :: rest =>
    if token = last then
      .ok ⟨reading.found, reading.drawing, rest,
        Nat.le_of_succ_le (by simpa only [split, List.length_cons] using reading.le)⟩
    else .error (unexpected reading.rest)
  | [] => .error .malformed

/-! Names and tags -/

structure Marks where
  name : Option String := none
  tag : Option String := none
  deriving DecidableEq

def fullTag (handles : Handles) (handle : Option String) (part : String) : Except Fault String :=
  match handle with
  | none => .ok part
  | some handle =>
    match Assoc.get? handle handles with
    | some start => .ok (start ++ part)
    | none => .error .malformed

def collectionTag (kind : Tag) (marks : Marks) : Tag :=
  match marks.tag with
  | none => kind
  | some name => if name = "!" then kind else Tag.ofName name

def scalarTag (marks : Marks) (isPlain : Bool) (text : List Char) : Tag :=
  match marks.tag with
  | none => if isPlain then Tag.ofPlain text else .str
  | some name => if name = "!" then Tag.ofPlain text else Tag.ofName name

def readMarks (handles : Handles) (drawing : Drawing) (tokens : List Token) :
    Except Fault (Reading Marks tokens) :=
  match tokens with
  | .anchor name :: .tag handle part :: rest | .tag handle part :: .anchor name :: rest => do
    let tag ← fullTag handles handle part
    return ⟨⟨some name, some tag⟩, drawing, rest, Nat.le_succ_of_le (Nat.le_succ _)⟩
  | .anchor name :: rest => .ok ⟨⟨some name, none⟩, drawing, rest, Nat.le_succ _⟩
  | .tag handle part :: rest => do
    let tag ← fullTag handles handle part
    return ⟨⟨none, some tag⟩, drawing, rest, Nat.le_succ _⟩
  | tokens => .ok ⟨{}, drawing, tokens, Nat.le_refl _⟩

/-! Nodes -/

/-- Where a node stands: inside brackets, in a block, or as key or value in a block, where the
dashes of a list need no indentation of their own. -/
inductive Place where
  | flow
  | block
  | entry
  deriving DecidableEq

def stops : Place → List Token
  | .flow => [.value, .comma, .closeBracket, .closeBrace]
  | .block => [.entry, .key, .value, .closeBlock]
  | .entry => [.key, .value, .closeBlock]

mutual

def read (handles : Handles) (place : Place) (drawing : Drawing) (tokens : List Token) :
    Except Fault (Reading Nat tokens) :=
  match tokens with
  | .alias name :: rest =>
    match Assoc.get? name drawing.names with
    | some node => .ok ⟨node, drawing, rest, Nat.le_succ _⟩
    | none => .error .malformed
  | tokens => do
    let marks ← readMarks handles drawing tokens
    have le := marks.le
    let reserved ← marks.drawing.reserve marks.found.name
    match ← readContent handles place marks.found reserved marks.rest with
    | some node =>
      return ⟨drawing.nodes.size, node.drawing.fill drawing.nodes.size node.found, node.rest,
        Nat.le_trans node.le le⟩
    | none =>
      if marks.found = {} then .error (unexpected marks.rest) else
        let node := ⟨scalarTag marks.found true [], .scalar []⟩
        return ⟨drawing.nodes.size, reserved.fill drawing.nodes.size node, marks.rest, le⟩
termination_by 5 * tokens.length + 2

def readContent (handles : Handles) (place : Place) (marks : Marks) (drawing : Drawing)
    (tokens : List Token) : Except Fault (Option (Reading Node tokens)) :=
  match tokens with
  | .halt fault :: _ => .error fault
  | .scalar text isPlain :: rest =>
    .ok (some ⟨⟨scalarTag marks isPlain text, .scalar text⟩, drawing, rest, Nat.le_succ _⟩)
  | .openBracket :: rest => do
    let items ← readItems handles drawing rest
    return some ⟨⟨collectionTag .seq marks, .seq items.found⟩, items.drawing, items.rest,
      Nat.le_succ_of_le items.le⟩
  | .openBrace :: rest => do
    let entries ← readEntries handles drawing rest
    return some ⟨⟨collectionTag .map marks, .map entries.found⟩, entries.drawing, entries.rest,
      Nat.le_succ_of_le entries.le⟩
  | .openBlockSeq :: rest =>
    if place = .flow then .ok none else do
      let items ← readBlockItems handles drawing rest
      let items ← items.upTo .closeBlock
      return some ⟨⟨collectionTag .seq marks, .seq items.found⟩, items.drawing, items.rest,
        Nat.le_succ_of_le items.le⟩
  | .openBlockMap :: rest =>
    if place = .flow then .ok none else do
      let entries ← readBlockEntries handles drawing rest
      let entries ← entries.upTo .closeBlock
      return some ⟨⟨collectionTag .map marks, .map entries.found⟩, entries.drawing, entries.rest,
        Nat.le_succ_of_le entries.le⟩
  | .entry :: rest =>
    if place = .entry then do
      let items ← readBlockItems handles drawing (.entry :: rest)
      return some ⟨⟨collectionTag .seq marks, .seq items.found⟩, items.drawing, items.rest, items.le⟩
    else .ok none
  | _ => .ok none
termination_by 5 * tokens.length + 1

def readOptional (handles : Handles) (place : Place) (drawing : Drawing) (tokens : List Token) :
    Except Fault (Reading Nat tokens) :=
  if tokens.head?.any (stops place).contains then .ok (leftOut drawing tokens)
  else read handles place drawing tokens
termination_by 5 * tokens.length + 3

def readValue (handles : Handles) (place : Place) (drawing : Drawing) (tokens : List Token) :
    Except Fault (Reading Nat tokens) :=
  match tokens with
  | .value :: rest => do
    let node ← readOptional handles place drawing rest
    return ⟨node.found, node.drawing, node.rest, Nat.le_succ_of_le node.le⟩
  | .halt fault :: _ => .error fault
  | tokens => .ok (leftOut drawing tokens)
termination_by 5 * tokens.length

def readBlockItems (handles : Handles) (drawing : Drawing) (tokens : List Token) :
    Except Fault (Reading (List Nat) tokens) :=
  match tokens with
  | .entry :: rest => do
    let item ← readOptional handles .block drawing rest
    have le := item.le
    let more ← readBlockItems handles item.drawing item.rest
    return ⟨item.found :: more.found, more.drawing, more.rest,
      Nat.le_succ_of_le (Nat.le_trans more.le le)⟩
  | tokens => .ok ⟨[], drawing, tokens, Nat.le_refl _⟩
termination_by 5 * tokens.length

def readBlockEntries (handles : Handles) (drawing : Drawing) (tokens : List Token) :
    Except Fault (Reading (List (Nat × Nat)) tokens) :=
  match tokens with
  | .key :: rest => do
    let key ← readOptional handles .entry drawing rest
    have keyLe := key.le
    let value ← readValue handles .entry key.drawing key.rest
    have valueLe := value.le
    let more ← readBlockEntries handles value.drawing value.rest
    return ⟨(key.found, value.found) :: more.found, more.drawing, more.rest,
      Nat.le_succ_of_le (Nat.le_trans more.le (Nat.le_trans valueLe keyLe))⟩
  | tokens => .ok ⟨[], drawing, tokens, Nat.le_refl _⟩
termination_by 5 * tokens.length

/-- The items of a list in brackets, and the closing bracket. A key makes a mapping of one entry. -/
def readItems (handles : Handles) (drawing : Drawing) (tokens : List Token) :
    Except Fault (Reading (List Nat) tokens) :=
  match tokens with
  | .closeBracket :: rest => .ok ⟨[], drawing, rest, Nat.le_succ _⟩
  | .key :: rest => do
    let key ← readOptional handles .flow drawing rest
    have keyLe := key.le
    let value ← readValue handles .flow key.drawing key.rest
    have valueLe := value.le
    let more ← readNextItems handles (value.drawing.single key.found value.found) value.rest
    return ⟨value.drawing.nodes.size :: more.found, more.drawing, more.rest,
      Nat.le_succ_of_le (Nat.le_trans more.le (Nat.le_trans valueLe keyLe))⟩
  | tokens => do
    let item ← read handles .flow drawing tokens
    have le := item.le
    let more ← readNextItems handles item.drawing item.rest
    return ⟨item.found :: more.found, more.drawing, more.rest, Nat.le_trans more.le le⟩
termination_by 5 * tokens.length + 4

def readNextItems (handles : Handles) (drawing : Drawing) (tokens : List Token) :
    Except Fault (Reading (List Nat) tokens) :=
  match tokens with
  | .closeBracket :: rest => .ok ⟨[], drawing, rest, Nat.le_succ _⟩
  | .comma :: rest => do
    let more ← readItems handles drawing rest
    return ⟨more.found, more.drawing, more.rest, Nat.le_succ_of_le more.le⟩
  | tokens => .error (unexpected tokens)
termination_by 5 * tokens.length

/-- The entries of a mapping in braces, and the closing brace. A node alone is a key. -/
def readEntries (handles : Handles) (drawing : Drawing) (tokens : List Token) :
    Except Fault (Reading (List (Nat × Nat)) tokens) :=
  match tokens with
  | .closeBrace :: rest => .ok ⟨[], drawing, rest, Nat.le_succ _⟩
  | .key :: rest => do
    let key ← readOptional handles .flow drawing rest
    have keyLe := key.le
    let value ← readValue handles .flow key.drawing key.rest
    have valueLe := value.le
    let more ← readNextEntries handles value.drawing value.rest
    return ⟨(key.found, value.found) :: more.found, more.drawing, more.rest,
      Nat.le_succ_of_le (Nat.le_trans more.le (Nat.le_trans valueLe keyLe))⟩
  | tokens => do
    let key ← read handles .flow drawing tokens
    have le := key.le
    let value := leftOut key.drawing key.rest
    let more ← readNextEntries handles value.drawing key.rest
    return ⟨(key.found, value.found) :: more.found, more.drawing, more.rest, Nat.le_trans more.le le⟩
termination_by 5 * tokens.length + 4

def readNextEntries (handles : Handles) (drawing : Drawing) (tokens : List Token) :
    Except Fault (Reading (List (Nat × Nat)) tokens) :=
  match tokens with
  | .closeBrace :: rest => .ok ⟨[], drawing, rest, Nat.le_succ _⟩
  | .comma :: rest => do
    let more ← readEntries handles drawing rest
    return ⟨more.found, more.drawing, more.rest, Nat.le_succ_of_le more.le⟩
  | tokens => .error (unexpected tokens)
termination_by 5 * tokens.length

end

/-! Documents -/

/-- The handles that the directives of a document declare. Directives come at most once each. -/
def directives (versioned : Bool) (handles : Handles) :
    List Token → Except Fault (Handles × List Token)
  | .version major :: rest =>
    if versioned || major != 1 then .error .malformed else directives true handles rest
  | .handle name start :: rest =>
    if (Assoc.get? name handles).isSome then .error .malformed
    else directives versioned ((name, start) :: handles) rest
  | .reserved :: rest => directives versioned handles rest
  | rest => .ok (handles, rest)

def commonHandles : Handles := [("!", "!"), ("!!", Tag.common)]

def isDocumentSign : Token → Bool
  | .version _ | .handle _ _ | .reserved | .documentStart | .documentEnd => true
  | _ => false

def endsAt (tokens : List Token) : Except Fault Unit :=
  match tokens.dropWhile (· == .documentEnd) with
  | [] => .ok ()
  | rest => .error (unexpected rest)

def ofDocument (handles : Handles) (tokens : List Token) : Except Fault (Graph × Nat) := do
  let node ← read handles .block {} tokens
  endsAt node.rest
  return (node.drawing.nodes, node.found)

def ofTokens? (tokens : List Token) : Except Fault (Option (Graph × Nat)) :=
  match tokens with
  | [] => .ok none
  | token :: _ =>
    -- a document that is not opened by a mark cannot begin with the mark of an end
    if isDocumentSign token && token != .documentEnd then do
      let (handles, rest) ← directives false [] tokens
      match rest with
      | .documentStart :: rest =>
        if rest.head?.all isDocumentSign then
          endsAt rest
          return some (#[absent], 0)
        else (ofDocument (handles ++ commonHandles) rest).map some
      | rest => .error (unexpected rest)
    else (ofDocument commonHandles tokens).map some

end Node

end Arrears.Yaml
