import SecretScan.Yaml.Tag

/-!
# Graphs of nodes

A document is a graph: its nodes are scalars, lists of nodes and mappings between nodes. A node can
be in several places, also inside itself, so lists and mappings hold the numbers of their nodes.
-/

namespace SecretScan.Yaml

/-- The number of a node. -/
abbrev NodeId := Nat

/-- A node with its type. -/
inductive Node where
  /-- A scalar. -/
  | scalar (tag : Tag) (value : Text)
  /-- A list. -/
  | list (tag : Tag) (items : List NodeId)
  /-- A mapping. -/
  | map (tag : Tag) (entries : List (NodeId × NodeId))
deriving DecidableEq, Repr

namespace Node

/-- The type of a node. -/
def tag : Node → Tag
  | scalar tag _ => tag
  | list tag _ => tag
  | map tag _ => tag

/-- The node with another type. -/
def retag (tag : Tag) : Node → Node
  | scalar _ value => scalar tag value
  | list _ items => list tag items
  | map _ entries => map tag entries

/-- A missing scalar. -/
def missing : Node :=
  scalar .null []

end Node

/-- Nodes by number. -/
structure Graph where
  /-- The nodes in the order of their numbers. -/
  nodes : Array Node

namespace Graph

/-- The graph without nodes. -/
def empty : Graph := ⟨#[]⟩

/-- The number of the next node. -/
def size (g : Graph) : Nat := g.nodes.size

/-- The graph with a further node, whose number is the size of `g`. -/
def add (g : Graph) (n : Node) : Graph := ⟨g.nodes.push n⟩

/-- The graph with `n` as the node with a number. -/
def put (g : Graph) (id : NodeId) (n : Node) : Graph := ⟨g.nodes.setIfInBounds id n⟩

/-- The node with a number. -/
def node (g : Graph) (id : NodeId) : Node := g.nodes[id]?.getD .missing

/-- The entries of a node; one that is no mapping has none. -/
def entries (g : Graph) (id : NodeId) : List (NodeId × NodeId) :=
  match g.node id with
  | .map _ entries => entries
  | _ => []

/-- The graph with other entries in a mapping. -/
def putEntries (g : Graph) (id : NodeId) (entries : List (NodeId × NodeId)) : Graph :=
  g.put id (.map (g.node id).tag entries)

/-- How many entries and nodes there are. -/
def extent (g : Graph) : Nat :=
  g.nodes.foldl (fun n node => match node with
    | .map _ entries => n + entries.length + 1
    | _ => n + 1) 0

/-- A new node is the one with the number that was next. -/
theorem node_add (g : Graph) (n : Node) : (g.add n).node g.size = n := by
  simp [node, add, size]

/-- A node that is put in is found again. -/
theorem node_put (g : Graph) (id : NodeId) (n : Node) (h : id < g.size) :
    (g.put id n).node id = n := by
  simp only [size] at h
  simp [node, put, h]

/-- Putting a node in leaves the others as they are. -/
theorem node_put_of_ne (g : Graph) (id other : NodeId) (n : Node) (h : id ≠ other) :
    (g.put id n).node other = g.node other := by
  simp [node, put, Array.getElem?_setIfInBounds_ne h]

end Graph

end SecretScan.Yaml
