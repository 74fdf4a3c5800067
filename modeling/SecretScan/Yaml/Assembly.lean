import SecretScan.Yaml.Graph
import SecretScan.Yaml.Token

/-!
# Putting nodes together

The tokens of a document make one node, and on the way the nodes in it. An alias is the very node
with its anchor, and the anchor is known as soon as the node begins: so an alias inside a node can
mean that node.
-/

namespace SecretScan.Yaml

/-- What handles stand for. -/
abbrev Handles := List (Text × Text)

/-- What handles stand for unless a directive says otherwise. -/
def Handles.default : Handles :=
  [("!".toList, "!".toList), ("!!".toList, Tag.namePrefix.toList)]

/-- The name of a tag. -/
def WrittenTag.name (handles : Handles) (t : WrittenTag) : Except Fault Text :=
  match t.handle with
  | none => .ok t.suffix
  | some handle =>
    match handles.lookup handle with
    | some start => .ok (start ++ t.suffix)
    | none => .error .malformed

/-- The state of putting nodes together. -/
structure Assembly where
  /-- The tokens to come. -/
  tokens : List Token
  /-- The nodes so far. -/
  graph : Graph
  /-- The anchored nodes so far. -/
  anchors : List (Text × NodeId)

/-- A step of putting nodes together. -/
abbrev Assemble := StateT Assembly (Except Fault)

namespace Assemble

/-- The next token. -/
def peek : Assemble (Option Token) := do
  return (← get).tokens.head?

/-- Passes over a token. -/
def drop : Assemble Unit :=
  modify fun s => { s with tokens := s.tokens.drop 1 }

/-- The next token has no place here. -/
def refuse {α : Type} : Assemble α := do
  match ← peek with
  | some (.broken f) => throw f
  | _ => throw .malformed

/-- Whether the next token is one of several. -/
def at? (p : Token → Bool) : Assemble Bool := do
  return ((← peek).map p).getD false

/-- Passes over a token that has to be there. -/
def expect (p : Token → Bool) : Assemble Unit := do
  if ← at? p then drop else refuse

/-- A further node. -/
def add (n : Node) : Assemble NodeId := do
  let id := (← get).graph.size
  modify fun s => { s with graph := s.graph.add n }
  return id

/-- The node that `body` puts together, under an anchor if it has one. It has its number before
anything in it has one. -/
def anchored (anchor : Option Text) (body : Assemble Node) : Assemble NodeId := do
  let id ← add .missing
  if let some name := anchor then
    if ((← get).anchors.lookup name).isSome then throw .malformed
    modify fun s => { s with anchors := (name, id) :: s.anchors }
  let n ← body
  modify fun s => { s with graph := s.graph.put id n }
  return id

/-- An anchor and a tag, in any order, each of them optional. -/
def properties : Assemble (Option Text × Option WrittenTag) := do
  match ← peek with
  | some (.anchor name) =>
    drop
    match ← peek with
    | some (.tag t) => drop; return (some name, some t)
    | _ => return (some name, none)
  | some (.tag t) =>
    drop
    match ← peek with
    | some (.anchor name) => drop; return (some name, some t)
    | _ => return (none, some t)
  | _ => return (none, none)

/-- The type of a scalar. The tag of a single exclamation mark asks for the type of its form. -/
def scalarTag (name : Option Text) (value : Text) (plain : Bool) : Tag :=
  match name with
  | none => if plain then .ofPlain value else .str
  | some ['!'] => .ofPlain value
  | some name => .ofName name

/-- The type of a list or mapping. -/
def collectionTag (name : Option Text) (default : Tag) : Tag :=
  match name with
  | none | some ['!'] => default
  | some name => .ofName name

/-- Whether the token is the end of a deeper indentation. -/
def isBlockEnd : Token → Bool
  | .blockEnd => true
  | _ => false

/-- Whether the token is the dash before an item. -/
def isItem : Token → Bool
  | .item => true
  | _ => false

/-- Whether the token comes before a key. -/
def isKey : Token → Bool
  | .key => true
  | _ => false

/-- Whether the token comes before a value. -/
def isValue : Token → Bool
  | .value => true
  | _ => false

/-- Whether the token is a comma. -/
def isComma : Token → Bool
  | .comma => true
  | _ => false

/-- Whether the token is a closing square bracket. -/
def isListClose : Token → Bool
  | .listClose => true
  | _ => false

/-- Whether the token is a closing brace. -/
def isMapClose : Token → Bool
  | .mapClose => true
  | _ => false

/-- Whether no node can stand before the token in a block. -/
def endsBlockNode (t : Token) : Bool :=
  isKey t || isValue t || isBlockEnd t

/-- Passes over the comma before any but the first part of brackets that end with `close`. -/
def separator (first : Bool) (close : Token → Bool) : Assemble Unit := do
  if !first && !(← at? close) then expect isComma

/-- The node that `body` puts together, or a missing one before a token in `p`. -/
def nodeUnless (p : Token → Bool) (body : Assemble NodeId) : Assemble NodeId := do
  if ← at? p then add .missing else body

mutual

/-- A node. In a block it can be a block itself; where `bare` holds, also items that are not
indented. -/
def node (handles : Handles) (inBlock bare : Bool) : Nat → Assemble NodeId
  | 0 => throw .malformed
  | fuel + 1 => do
    match ← peek with
    | some (.alias name) =>
      drop
      match (← get).anchors.lookup name with
      | some id => return id
      | none => throw .malformed
    | _ =>
      let (anchor, tag) ← properties
      let name ← match tag with
        | none => pure none
        | some tag => some <$> tag.name handles
      let list (body : Assemble (List NodeId)) : Assemble NodeId :=
        anchored anchor (return .list (collectionTag name .seq) (← body))
      let map (body : Assemble (List (NodeId × NodeId))) : Assemble NodeId :=
        anchored anchor (return .map (collectionTag name .map) (← body))
      let scalar (value : Text) (plain : Bool) : Assemble NodeId :=
        anchored anchor (return .scalar (scalarTag name value plain) value)
      match ← peek with
      | some (.scalar value plain) => drop; scalar value plain
      | some .listOpen => drop; list (flowItems handles true fuel)
      | some .mapOpen => drop; map (flowEntries handles true fuel)
      | next =>
        match next, inBlock, bare with
        | some .item, _, true => list (bareItems handles fuel)
        | some .blockList, true, _ => drop; list (blockItems handles fuel)
        | some .blockMap, true, _ => drop; map (blockEntries handles fuel)
        | _, _, _ => if anchor.isSome || tag.isSome then scalar [] true else refuse

/-- The items of an indented list. -/
def blockItems (handles : Handles) : Nat → Assemble (List NodeId)
  | 0 => throw .malformed
  | fuel + 1 => do
    if ← at? isItem then
      drop
      let first ← nodeUnless (fun t => isItem t || isBlockEnd t) (node handles true false fuel)
      return first :: (← blockItems handles fuel)
    else
      expect isBlockEnd
      return []

/-- The items of a list that is not indented. -/
def bareItems (handles : Handles) : Nat → Assemble (List NodeId)
  | 0 => throw .malformed
  | fuel + 1 => do
    if ← at? isItem then
      drop
      let first ← nodeUnless (fun t => isItem t || endsBlockNode t) (node handles true false fuel)
      return first :: (← bareItems handles fuel)
    else return []

/-- The entries of an indented mapping. -/
def blockEntries (handles : Handles) : Nat → Assemble (List (NodeId × NodeId))
  | 0 => throw .malformed
  | fuel + 1 => do
    let isEntry ← at? fun t => isKey t
    if isEntry then
      drop
      let key ← nodeUnless endsBlockNode (node handles true true fuel)
      let value ← blockValue handles fuel
      return (key, value) :: (← blockEntries handles fuel)
    else
      expect isBlockEnd
      return []

/-- The value of an entry of an indented mapping. -/
def blockValue (handles : Handles) : Nat → Assemble NodeId
  | 0 => throw .malformed
  | fuel + 1 => do
    if ← at? isValue then
      drop
      nodeUnless endsBlockNode (node handles true true fuel)
    else add .missing

/-- The items between square brackets. An item can be a mapping with one entry and no braces. -/
def flowItems (handles : Handles) (first : Bool) : Nat → Assemble (List NodeId)
  | 0 => throw .malformed
  | fuel + 1 => do
    separator first isListClose
    if ← at? isListClose then
      drop
      return []
    else if ← at? isKey then
      drop
      let ends (t : Token) := isComma t || isListClose t
      let key ← nodeUnless (fun t => isValue t || ends t) (node handles false false fuel)
      let value ← flowValue handles ends fuel
      let item ← add (.map .map [(key, value)])
      return item :: (← flowItems handles false fuel)
    else
      let item ← node handles false false fuel
      return item :: (← flowItems handles false fuel)

/-- The entries between braces. An entry can be a key alone. -/
def flowEntries (handles : Handles) (first : Bool) : Nat → Assemble (List (NodeId × NodeId))
  | 0 => throw .malformed
  | fuel + 1 => do
    separator first isMapClose
    if ← at? isMapClose then
      drop
      return []
    else if ← at? isKey then
      drop
      let ends (t : Token) := isComma t || isMapClose t
      let key ← nodeUnless (fun t => isValue t || ends t) (node handles false false fuel)
      let value ← flowValue handles ends fuel
      return (key, value) :: (← flowEntries handles false fuel)
    else
      let key ← node handles false false fuel
      let value ← add .missing
      return (key, value) :: (← flowEntries handles false fuel)

/-- The value of an entry inside brackets, which a token in `ends` ends. -/
def flowValue (handles : Handles) (ends : Token → Bool) : Nat → Assemble NodeId
  | 0 => throw .malformed
  | fuel + 1 => do
    if ← at? isValue then
      drop
      nodeUnless ends (node handles false false fuel)
    else add .missing

end

/-- Whether the token is a directive. -/
def isDirective : Token → Bool
  | .directive _ => true
  | _ => false

/-- Whether the token begins a document. -/
def isDocumentStart : Token → Bool
  | .documentStart => true
  | _ => false

/-- Whether the token ends a document. -/
def isDocumentEnd : Token → Bool
  | .documentEnd => true
  | _ => false

/-- The meaning of handles after directives. Only versions 1 of the language are known, no version
is told twice, and no handle gets its meaning twice. -/
def handlesOf (versioned : Bool) (given : Handles) : List Directive → Except Fault Handles
  | [] => .ok (given ++ .default)
  | .version major :: ds =>
    if versioned || major ≠ 1 then .error .malformed else handlesOf true given ds
  | .tag handle name :: ds =>
    if (given.lookup handle).isSome then .error .malformed
    else handlesOf versioned ((handle, name) :: given) ds
  | .unknown :: ds => handlesOf versioned given ds

/-- The directives at the beginning of a document. -/
def directives : Assemble (List Directive) := do
  let s ← get
  let ds := s.tokens.takeWhile isDirective
  set { s with tokens := s.tokens.drop ds.length }
  return ds.filterMap fun t => match t with
    | .directive d => some d
    | _ => none

/-- Passes over the ends of documents. Nothing comes after them. -/
def finish : Assemble Unit := do
  modify fun s => { s with tokens := s.tokens.dropWhile isDocumentEnd }
  if (← peek).isSome then refuse

/-- The node of a document, if it has one. -/
def document : Assemble (Option NodeId) := do
  let fuel := 2 * (← get).tokens.length + 3
  if (← peek).isNone then return none
  else if ← at? fun t => isDirective t || isDocumentStart t then
    let ds ← directives
    expect isDocumentStart
    let handles ← handlesOf false [] ds
    let isEmpty ← at? fun t => isDirective t || isDocumentStart t || isDocumentEnd t
    let root ←
      if isEmpty || (← peek).isNone then add .missing else node handles true false fuel
    finish
    return root
  else
    let root ← node .default true false fuel
    finish
    return root

end Assemble

/-- The graph that tokens make, and the number of the node that is the document, if there is one. -/
def Graph.ofTokens (ts : List Token) : Except Fault (Option NodeId × Graph) :=
  (Assemble.document.run ⟨ts, .empty, []⟩).map fun (root, s) => (root, s.graph)

end SecretScan.Yaml
