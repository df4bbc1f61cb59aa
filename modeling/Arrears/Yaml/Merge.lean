import Arrears.Yaml.Node

/-! Merging. A merge key of a mapping names another mapping, or a list of them, and their entries
come before the mapping's own. Merging is done once for a node, wherever it stands, and it may come
back to the mapping it began at: each merge key is taken out before its mappings are looked at. -/

set_option autoImplicit false

namespace Arrears.Yaml.Graph

def entriesAt (graph : Graph) (place : Nat) : List (Nat × Nat) :=
  match graph[place]? with
  | some ⟨_, .map entries⟩ => entries
  | _ => []

def hasTag (graph : Graph) (tag : Tag) (place : Nat) : Bool :=
  graph[place]?.any fun node => node.tag == tag

def isMapping (graph : Graph) (place : Nat) : Bool :=
  match graph[place]? with
  | some ⟨_, .map _⟩ => true
  | _ => false

def setEntries (graph : Graph) (place : Nat) (entries : List (Nat × Nat)) : Graph :=
  graph.modify place fun node => { node with content := .map entries }

/-- Among the keys of a mapping the sign of values is a text. -/
def nameKeys (graph : Graph) (entries : List (Nat × Nat)) : Graph :=
  entries.foldl (fun graph (key, _) => graph.modify key fun node =>
    if node.tag == .value then { node with tag := .str } else node) graph

def isMergeEntry (graph : Graph) (entry : Nat × Nat) : Bool := graph.hasTag .merge entry.1

def mergeCount (graph : Graph) : Nat :=
  (List.range graph.size).foldl (fun n place =>
    n + ((graph.entriesAt place).filter graph.isMergeEntry).length) 0

/-- Takes out the first merge key of a mapping, if it has one, and puts the entries that it brings
behind those at hand; `merge` merges at the mappings it names. -/
def takeMerge (merge : Graph → Nat → Except Fault Graph) (place : Nat) (graph : Graph)
    (front : List (Nat × Nat)) : Except Fault (Graph × List (Nat × Nat)) :=
  match (graph.entriesAt place).span fun entry => !graph.isMergeEntry entry with
  | (_, []) => .ok (graph, front)
  | (before, (_, source) :: after) => do
    let graph := graph.setEntries place (before ++ after)
    match graph[source]? with
    | some ⟨_, .map _⟩ =>
      let graph ← merge graph source
      return (graph, front ++ graph.entriesAt source)
    | some ⟨_, .seq items⟩ =>
      -- of several mappings the last comes first
      let (graph, found) ← items.foldlM (fun (graph, found) item => do
        if !graph.isMapping item then .error .malformed
        let graph ← merge graph item
        return (graph, graph.entriesAt item ++ found)) (graph, [])
      return (graph, front ++ found)
    | _ => .error .malformed

/-- Merges at a mapping. Each merge takes out a merge key before it begins others, so that no more
can be under way than there are merge keys; `depth` is a bound for them. -/
def merge : Nat → Graph → Nat → Except Fault Graph
  | 0, graph, _ => .ok graph
  | depth + 1, graph, place => do
    let merges := (graph.entriesAt place).filter graph.isMergeEntry
    let (graph, front) ← merges.foldlM
      (fun (graph, front) _ => takeMerge (merge depth) place graph front) (graph, [])
    let own := graph.entriesAt place
    return (graph.nameKeys own).setEntries place (front ++ own)

end Arrears.Yaml.Graph
