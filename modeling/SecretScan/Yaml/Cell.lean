import SecretScan.Datum.Key
import SecretScan.Yaml.Merge
import SecretScan.Yaml.Scalar.Typed
import Std.Data.HashMap

/-!
# Values of nodes

Each node has one value, and the parts of it are meant by number, as in the graph. Values are found
level by level from the document down. So of several faults in a document the one that is least deep
counts, and of these the first.
-/

namespace SecretScan.Yaml

/-- The value of a node. -/
inductive Cell where
  /-- A value without parts. -/
  | leaf (d : Datum)
  /-- A list. -/
  | list (items : List NodeId)
  /-- A list of pairs. -/
  | pairs (items : List (NodeId × NodeId))
  /-- A mapping. -/
  | map (entries : List (Key × NodeId))
  /-- A set. -/
  | set (keys : List Key)

/-- Values by the numbers of their nodes. -/
abbrev Cells := Std.HashMap NodeId Cell

/-- The text of a scalar. A mapping with a default value has the text of that; `fuel` bounds how
often it is one of a mapping again. -/
def Graph.text? (g : Graph) : (fuel : Nat) → NodeId → Option Text
  | 0, _ => none
  | fuel + 1, id =>
    match g.node id with
    | .scalar _ value => some value
    | .map _ entries =>
      (entries.find? fun (key, _) => (g.node key).tag = .value).bind fun (_, value) =>
        g.text? fuel value
    | .list .. => none

/-- The state of finding values. -/
structure Construction where
  /-- The graph, with the merge keys worked off so far. -/
  graph : Graph
  /-- The values so far. A collection that has been met but not looked into counts as empty. -/
  cells : Cells
  /-- The collections to look into, last one first. -/
  met : List NodeId

/-- A step of finding values. -/
abbrev Construct := StateT Construction (Except Fault)

namespace Construct

/-- Records a value. -/
def record (id : NodeId) (cell : Cell) : Construct Unit :=
  modify fun s => { s with cells := s.cells.insert id cell }

/-- Meets a node. The value of a scalar is found at once. -/
def visit (id : NodeId) : Construct Unit := do
  let s ← get
  if s.cells.contains id then return
  let tag := (s.graph.node id).tag
  if tag.isCollection then
    record id (.list [])
    modify fun s => { s with met := id :: s.met }
  else
    match s.graph.text? (s.graph.size + 1) id with
    | none => throw .malformed
    | some t => record id (.leaf (← scalarValue tag t))

/-- The key at a node; a collection is none. -/
def key (id : NodeId) : Construct Key := do
  visit id
  let s ← get
  match s.cells[id]? with
  | some (.leaf d) =>
    let common := d matches .float _ && (s.graph.text? (s.graph.size + 1) id).any isNanWord
    return ⟨d, if common then none else some id⟩
  | _ => throw .malformed

/-- The entries of a mapping. -/
def entries (id : NodeId) : Construct (List (Key × NodeId)) := do
  let graph ← (← get).graph.withoutMerges id
  modify fun s => { s with graph }
  let found ← (graph.entries id).mapM fun (name, value) => do
    let key ← key name
    visit value
    return (key, value)
  return found.foldl (fun entries (key, value) => key.put value entries) []

/-- The pair that a mapping with one entry is. -/
def pair (id : NodeId) : Construct (NodeId × NodeId) := do
  match (← get).graph.node id with
  | .map _ [(first, second)] =>
    visit first
    visit second
    return (first, second)
  | _ => throw .malformed

/-- Looks into a collection. -/
def lookInto (id : NodeId) : Construct Unit := do
  let node := (← get).graph.node id
  let cell ← match node.tag, node with
    | .seq, .list _ items => do
      items.forM visit
      pure (.list items)
    | .omap, .list _ items => .pairs <$> items.mapM pair
    | .pairs, .list _ items => .pairs <$> items.mapM pair
    | .map, .map .. => .map <$> entries id
    | .set, .map .. => (fun found => .set (found.map Prod.fst)) <$> entries id
    | _, _ => throw .malformed
  record id cell

/-- Looks into all collections that have been met, then into those that were met in them, and so on
down; `fuel` bounds the number of levels. -/
def levels : (fuel : Nat) → Construct Unit
  | 0 => return
  | fuel + 1 => do
    let met := (← get).met.reverse
    modify fun s => { s with met := [] }
    if met.isEmpty then return
    met.forM lookInto
    levels fuel

end Construct

/-- The values of the document `root` and of all nodes in it. No node is looked into twice, so there
are no more levels than nodes. -/
def Graph.cells (g : Graph) (root : NodeId) : Except Fault Cells :=
  let run : Construct Unit := do
    Construct.visit root
    Construct.levels (g.size + 1)
  (run.run ⟨g, ∅, []⟩).map fun (_, s) => s.cells

end SecretScan.Yaml
