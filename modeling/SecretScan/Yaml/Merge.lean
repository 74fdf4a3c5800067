import SecretScan.Yaml.Fault
import SecretScan.Yaml.Graph

/-!
# Merging

The merge key of a mapping names a mapping, or a list of mappings, whose entries the mapping takes
over. They come first, so that its own entries win; of a list of mappings the first one wins. What
is merged has its own merge keys worked off before. A mapping that is being worked on has the
entries in which its merge keys so far are left out: so a mapping can merge one that is around it.
-/

namespace SecretScan.Yaml

/-- A step that changes a graph. -/
abbrev Rework := StateT Graph (Except Fault)

namespace Graph

/-- What a key asks for. -/
inductive KeyRole where
  /-- To merge mappings. -/
  | merge
  /-- The default value. In a mapping it is an entry like others, with a text for a key. -/
  | default
  /-- An entry. -/
  | plain

/-- What the key `id` asks for. -/
def keyRole (g : Graph) (id : NodeId) : KeyRole :=
  match (g.node id).tag with
  | .merge => .merge
  | .value => .default
  | _ => .plain

/-- The mappings that the value of a merge key names. -/
def merged (g : Graph) (id : NodeId) : Except Fault (List NodeId) :=
  let isMap (id : NodeId) : Bool := match g.node id with
    | .map .. => true
    | _ => false
  match g.node id with
  | .list _ items => if items.all isMap then .ok items else .error .malformed
  | _ => if isMap id then .ok [id] else .error .malformed

/-- Works off the merge keys among the entries `rest` of the mapping `id`. The entries in `done`
come before them, last one first; those in `taken` have been taken over so far. `work` works off
the merge keys of another mapping. -/
def workOff (work : NodeId → Rework Unit) (id : NodeId) :
    (taken done rest : List (NodeId × NodeId)) → Rework Unit
  | taken, done, [] => modify (·.putEntries id (taken ++ done.reverse))
  | taken, done, (key, value) :: rest => do
    match (← get).keyRole key with
    | .plain => workOff work id taken ((key, value) :: done) rest
    | .default =>
      modify fun g => g.put key ((g.node key).retag .str)
      workOff work id taken ((key, value) :: done) rest
    | .merge =>
      modify (·.putEntries id (done.reverse ++ rest))
      let parts ← (← (← get).merged value).mapM fun part => do
        work part
        return (← get).entries part
      workOff work id (taken ++ parts.reverse.flatten) done rest

/-- Works off the merge keys of a mapping; `fuel` bounds how deep mappings are merged. -/
def workOffMerges : (fuel : Nat) → NodeId → Rework Unit
  | 0, _ => throw .malformed
  | fuel + 1, id => do workOff (workOffMerges fuel) id [] [] ((← get).entries id)

/-- The graph in which the mapping `id` has no merge keys. Each step down to a mapping to be merged
leaves a merge key out, so there is nothing deeper than entries are many. -/
def withoutMerges (g : Graph) (id : NodeId) : Except Fault Graph :=
  ((workOffMerges (g.extent + 1) id).run g).map Prod.snd

end Graph

end SecretScan.Yaml
