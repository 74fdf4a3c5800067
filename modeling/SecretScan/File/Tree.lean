import SecretScan.File.Path
import SecretScan.Text.Quoted
import SecretScan.Text.Utf8

/-!
# File trees

All that a run can read is a tree of folders and files. A folder lists what is in it in no
particular order; where the order counts it is that of the names. Not every path can be looked at:
names have a greatest length, and a folder can be closed to those who want to enter it.
-/

namespace SecretScan

/-- A file, or a folder and all below it. -/
inductive FileTree where
  /-- A file. -/
  | file (content : Bytes)
  /-- A folder. -/
  | folder (entries : List (Text × FileTree))
deriving Inhabited

namespace FileTree

/-- Whether it is a folder. -/
def isFolder : FileTree → Bool
  | file _ => false
  | folder _ => true

/-- What is at the end of the way along `names`; `above` are the folders around `t`. -/
def walk (above : List FileTree) (t : FileTree) : List Text → Option FileTree
  | [] => some t
  | name :: names =>
    match t with
    | file _ => none
    | folder entries =>
      if name = "..".toList then
        match above with
        | [] => none
        | outer :: above => walk above outer names
      else
        match entries.lookup name with
        | some inner => walk (t :: above) inner names
        | none => none

/-- What is at the end of the way along `names`. -/
def find? (t : FileTree) (names : List Text) : Option FileTree :=
  walk [] t names

/-- Puts an entry into a folder; it replaces the one of its name. -/
def putEntry (name : Text) (t : FileTree) : List (Text × FileTree) → List (Text × FileTree)
  | [] => [(name, t)]
  | (n, u) :: entries =>
    if n = name then (name, t) :: entries else (n, u) :: putEntry name t entries

/-- The entries of a folder. -/
def entries : FileTree → List (Text × FileTree)
  | file _ => []
  | folder es => es

/-- Puts `leaf` at the end of the way along `names`. Missing folders on the way are made. -/
def put (t : FileTree) (names : List Text) (leaf : FileTree) : FileTree :=
  match names with
  | [] => leaf
  | name :: names =>
    let inner := (t.entries.lookup name).getD (folder [])
    folder (putEntry name (inner.put names leaf) t.entries)

/-- Entries in the order of their names. -/
def sorted {α : Type} (entries : List (Text × α)) : List (Text × α) :=
  entries.mergeSort fun a b => Text.atMost a.1 b.1

end FileTree

/-- Why it cannot even be said whether there is something at a path. -/
inductive AccessError where
  /-- A name on the way, or the path as a whole, is too long. -/
  | tooLong (path : Text)
  /-- A folder may not be entered. -/
  | denied (path : Text)
deriving DecidableEq, Repr

/-- The error of the operating system. -/
def AccessError.message : AccessError → String
  | tooLong path => s!"[Errno 36] File name too long: {String.ofList path.quoted}"
  | denied path => s!"[Errno 13] Permission denied: {String.ofList path.quoted}"

/-- How many bytes a name may have. -/
def longestName : Nat := 255

/-- How many bytes a path may have. -/
def longestPath : Nat := 4095

/-- The files within reach. -/
structure Files where
  /-- The folder in which relative paths begin. -/
  home : Path
  /-- The trees, each with its path. -/
  trees : List (Path × FileTree)
  /-- Whether the folder at a full path may not be entered. -/
  isClosed : Path → Bool := fun _ => false

namespace Files

/-- The files of a tree that stands at `home`. -/
def ofTree (home : Path) (t : FileTree) : Files :=
  { home, trees := [(home, t)] }

/-- The rest of the way to `p` from `base`, if `base` is on it. -/
def wayFrom? (base p : Path) : Option (List Text) :=
  if base.isAbsolute = p.isAbsolute && base.way.isPrefixOf p.way then
    some (p.way.drop base.way.length)
  else none

/-- What is at a full path. -/
def at? (fs : Files) (p : Path) : Option FileTree :=
  fs.trees.findSome? fun (base, t) => (wayFrom? base p).bind t.find?

/-- What is at a path. A relative one begins in the home folder. -/
def find? (fs : Files) (p : Path) : Option FileTree :=
  match fs.at? p with
  | some t => some t
  | none => fs.at? (fs.home.append p)

/-- The content of the file at a path. -/
def file? (fs : Files) (p : Path) : Option Bytes :=
  match fs.find? p with
  | some (.file content) => some content
  | _ => none

/-- Whether there is a folder at a path: in a tree, or on the way to one. -/
def isFolder (fs : Files) (p : Path) : Bool :=
  (fs.find? p).any FileTree.isFolder || fs.trees.any fun (base, _) => (wayFrom? p base).isSome

/-- Whether there is a folder at a path that may not be entered. -/
def isShut (fs : Files) (p : Path) : Bool :=
  fs.isClosed (fs.home.append p)

/-- What keeps one from going along `names` from the folder `p`, for the path `written`. Where there
is no folder nothing does, since there is nothing to look for. -/
def barFrom? (fs : Files) (written : Text) (p : Path) : List Text → Option AccessError
  | [] => none
  | name :: names =>
    if !fs.isFolder p then none
    else if fs.isShut p then some (.denied written)
    else if longestName < (Utf8.encode name).length then some (.tooLong written)
    else barFrom? fs written (p.child name) names

/-- What keeps one from looking at a path. -/
def bar? (fs : Files) (p : Path) : Option AccessError :=
  if longestPath < (Utf8.encode p.toText).length then some (.tooLong p.toText)
  else fs.barFrom? p.toText ⟨p.isAbsolute, []⟩ p.way

/-- What keeps one from reading what is at a path. -/
def readBar? (fs : Files) (p : Path) : Option AccessError :=
  match fs.bar? p, fs.find? p with
  | none, some (.folder _) => if fs.isShut p then some (.denied p.toText) else none
  | bar, _ => bar

end Files

end SecretScan
