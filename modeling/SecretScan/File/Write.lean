import SecretScan.File.Tree

/-!
# Writing files

A file can be written at a path that can be looked at, where there is a folder to hold it and no
folder of its name.
-/

namespace SecretScan

/-- Why a file cannot be written. -/
inductive WriteError where
  /-- The folder that should hold it does not exist. -/
  | noFolder (path : Text)
  /-- What should be a folder on the way to it is a file. -/
  | notFolder (path : Text)
  /-- It is a folder itself. -/
  | isFolder (path : Text)
  /-- It cannot be looked at. -/
  | barred (e : AccessError)
deriving DecidableEq, Repr

/-- The error of the operating system. -/
def WriteError.message : WriteError → String
  | noFolder path => s!"[Errno 2] No such file or directory: {String.ofList path.quoted}"
  | notFolder path => s!"[Errno 20] Not a directory: {String.ofList path.quoted}"
  | isFolder path => s!"[Errno 21] Is a directory: {String.ofList path.quoted}"
  | barred e => e.message

/-- The beginnings of a list that leave something out. -/
def properHeads {α : Type} : List α → List (List α)
  | [] => []
  | a :: as => [] :: (properHeads as).map (a :: ·)

namespace Files

/-- Whether there is a file at a path. -/
def isFile (fs : Files) (path : Path) : Bool :=
  (fs.file? path).isSome

/-- What speaks against writing a file. -/
def objection? (fs : Files) (path : Path) : Option WriteError :=
  match fs.bar? path, fs.find? path with
  | some e, _ => some (.barred e)
  | none, some (.folder _) => some (.isFolder path.toText)
  | none, some (.file _) => none
  | none, none =>
    match fs.find? ⟨path.isAbsolute, path.names.dropLast⟩ with
    | some (.folder _) => none
    | _ =>
      if (properHeads path.names).any fun way => fs.isFile ⟨path.isAbsolute, way⟩ then
        some (.notFolder path.toText)
      else some (.noFolder path.toText)

/-- The trees with a file put in its place. -/
def putIn (path : Path) (content : Bytes) : List (Path × FileTree) → List (Path × FileTree)
  | [] => []
  | (base, t) :: trees =>
    match wayFrom? base path with
    | some way => (base, t.put way (.file content)) :: trees
    | none => (base, t) :: putIn path content trees

/-- The full path for a path. A relative one begins in the home folder. -/
def full (fs : Files) (path : Path) : Path :=
  if fs.trees.any fun (base, _) => (wayFrom? base path).isSome then path
  else fs.home.append path

/-- The files after one has been written. -/
def write (fs : Files) (path : Path) (content : Bytes) : Files :=
  { fs with trees := putIn (fs.full path) content fs.trees }

end Files

end SecretScan
