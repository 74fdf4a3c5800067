import SecretScan.Datum.Slot
import SecretScan.Yaml.Assembly
import SecretScan.Yaml.Cell

/-!
# Values of documents

The value of a document has its parts in place, where the values of nodes only have numbers. A part
that is in several places is in each of them. A part that is inside itself is a knot, and so is each
value on the way from it to itself, so that wherever one comes in, it is known again.
-/

namespace SecretScan.Yaml

/-- A value, with the numbers of the knots around it that it contains. -/
abbrev Part := Datum × List NodeId

/-- The values that have been put together and are not inside themselves. They are the same in all
places: no node around one of these places is inside them. -/
abbrev Known := Std.HashMap NodeId Datum

/-- Several values and the knots that they contain together. -/
def Part.all (parts : List Part) : List Datum × List NodeId :=
  (parts.map Prod.fst, (parts.flatMap Prod.snd).eraseDups)

/-- The value of a node with its parts in place. The nodes in `around` are those that it is in. -/
def Cells.datum (cells : Cells) :
    (fuel : Nat) → (around : List NodeId) → NodeId → StateM Known Part
  | 0, _, _ => return (.null, [])
  | fuel + 1, around, id => do
    let part := Cells.datum cells fuel (id :: around)
    let collection (parts : List NodeId) (build : List Datum → Datum) : StateM Known Part := do
      if around.contains id then return (.again id, [id])
      match (← get)[id]? with
      | some d => return (d, [])
      | none =>
        let (ds, inside) := Part.all (← parts.mapM part)
        if inside.isEmpty then
          modify (·.insert id (build ds))
          return (build ds, [])
        else return (.knot id (build ds), inside.filter (· ≠ id))
    match cells[id]? with
    | none => return (.null, [])
    | some (.leaf d) => return (d, [])
    | some (.set keys) => return (.set (Datum.inSlots (keys.map Key.value)), [])
    | some (.list items) => collection items .list
    | some (.map entries) =>
      collection (entries.map Prod.snd) fun ds =>
        .map ((entries.map fun (key, _) => key.value).zip ds)
    | some (.pairs items) =>
      collection (items.flatMap fun (first, second) => [first, second]) fun ds =>
        .list (pairUp ds)
where
  /-- The first two values as a pair, and so on. -/
  pairUp : List Datum → List Datum
    | first :: second :: ds => .pair first second :: pairUp ds
    | _ => []

/-- The value of the document `root`. On a way down into it no node comes twice, so no way is longer
than nodes are many. -/
def Graph.value (g : Graph) (root : NodeId) : Except Fault Datum :=
  (g.cells root).map fun cells => (Id.run ((cells.datum (g.size + 1) [] root).run ∅)).1.1

/-- The value of a document. An empty one has the null value. -/
def read (t : Text) : Except Fault Datum := do
  let (root, graph) ← Graph.ofTokens (tokens (Text.unifyLineBreaks t))
  match root with
  | some root => graph.value root
  | none => return .null

end SecretScan.Yaml
