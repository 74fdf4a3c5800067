import SecretScan.File.Tree
import SecretScan.Scan.Batch

/-!
# Collecting items

Below a folder every file is scanned, except those in folders that hold no work of one's own. A
folder is gone through in the order of the names in it. A file that holds a zero byte near its
beginning is not taken for text and is passed over. A folder that may not be entered ends the
collecting.
-/

namespace SecretScan

/-- The names of folders that are not entered. -/
def passedFolders : List Text :=
  [".git", ".hg", ".svn", "node_modules", "__pycache__", ".venv"].map String.toList

/-- Whether an entry of a folder is passed over. -/
def isPassed (name : Text) (t : FileTree) : Bool :=
  t.isFolder && passedFolders.contains name

/-- A file with its path. -/
abbrev Located := Path × Bytes

mutual

/-- The files at and below a path. -/
def filesAt (path : Path) : FileTree → List Located
  | .file content => [(path, content)]
  | .folder entries => (FileTree.sorted (filesOf path entries)).flatMap Prod.snd

/-- The files at and below each of the entries of a folder. -/
def filesOf (path : Path) : List (Text × FileTree) → List (Text × List Located)
  | [] => []
  | (name, t) :: entries =>
    (name, if isPassed name t then [] else filesAt (path.child name) t) :: filesOf path entries

end

mutual

/-- What keeps one from going through the folders at and below a path. -/
def barBelow? (fs : Files) (path : Path) : FileTree → Option AccessError
  | .file _ => none
  | .folder entries =>
    if fs.isShut path then some (.denied path.toText)
    else (FileTree.sorted (barsBelow fs path entries)).findSome? Prod.snd

/-- What keeps one from going through each of the entries of a folder. -/
def barsBelow (fs : Files) (path : Path) :
    List (Text × FileTree) → List (Text × Option AccessError)
  | [] => []
  | (name, t) :: entries =>
    (name, if isPassed name t then none else barBelow? fs (path.child name) t)
      :: barsBelow fs path entries

end

/-- What keeps one from collecting the files at and below several paths. -/
def collectBar? (fs : Files) (paths : List Path) : Option AccessError :=
  paths.findSome? fun path => (fs.find? path).bind (barBelow? fs path)

/-- How far into a file it is looked for a zero byte. -/
def sniffed : Nat := 8192

/-- Whether a file is not taken for text. -/
def isBinary (content : Bytes) : Bool :=
  (content.take sniffed).contains 0

/-- The item that a file makes. -/
def itemOf (f : Located) : Item :=
  ⟨Utf8.decodeTolerant f.2, f.1.toText⟩

/-- The files at and below several paths, and those that are passed over because they are not taken
for text. -/
def collect (fs : Files) (paths : List Path) : List Item × List Path :=
  let files := paths.flatMap fun path =>
    match fs.find? path with
    | some t => filesAt path t
    | none => []
  ((files.filter fun f => !isBinary f.2).map itemOf,
    (files.filter fun f => isBinary f.2).map Prod.fst)

end SecretScan
