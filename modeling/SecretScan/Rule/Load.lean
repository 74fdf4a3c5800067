import SecretScan.File.Tree
import SecretScan.Rule.Decode
import SecretScan.Yaml.Value

/-!
# Rule files

Rules are kept in YAML files. What a file holds is up to the reader of documents, which is a
parameter of all that is here; one is at hand. A folder of rules is all the YAML files in it, in the
order of their names. The first file that cannot be used ends the loading.
-/

namespace SecretScan

/-- Why a file holds no document. -/
inductive DocumentFault where
  /-- It is not in UTF-8. -/
  | encoding (e : Utf8.DecodeError)
  /-- It is not in YAML or has a value that does not exist. -/
  | yaml (f : Yaml.Fault)
deriving DecidableEq, Repr

/-- What reads the documents in files. -/
abbrev DocumentReader := Bytes → Except DocumentFault Datum

/-- The reader that is at hand. It takes in the whole file before it looks at the text. -/
def Yaml.readBytes : DocumentReader := fun content => do
  let t ← (Utf8.decodeBlocks [] content).mapError DocumentFault.encoding
  (Yaml.read t).mapError DocumentFault.yaml

/-- Why rules cannot be loaded. -/
inductive LoadError where
  /-- There is nothing at the path. -/
  | notFound (path : Text)
  /-- There is a folder where a file should be. -/
  | isFolder (path : Text)
  /-- The path cannot be looked at, or the folder there not be entered. -/
  | barred (e : AccessError)
  /-- A file is not in UTF-8. -/
  | encoding (e : Utf8.DecodeError)
  /-- A file is not in YAML or has a value that does not exist. -/
  | yaml (path : Text) (f : Yaml.Fault)
  /-- A file is no rule document. -/
  | document (e : DocumentError)
deriving DecidableEq, Repr

/-- The error of the operating system for a folder that is opened as a file. -/
def isFolderMessage (path : Text) : String :=
  s!"[Errno 21] Is a directory: {String.ofList path.quoted}"

/-- The error in words; `syntaxError` tells what is wrong with a file that is not in YAML. -/
def LoadError.message (syntaxError : String) : LoadError → String
  | notFound path => s!"Rules path not found: {String.ofList path}"
  | isFolder path =>
    s!"Failed to load rules from {String.ofList path}: {isFolderMessage path}"
  | barred e => e.message
  | encoding e => e.message
  | yaml path .malformed => s!"Failed to load rules from {String.ofList path}: {syntaxError}"
  | yaml _ f => f.message
  | document e => e.message

/-- Rules, or why there are none, and what is told on the way. -/
abbrev Loading := List Event × Except LoadError (List Rule)

/-- The error of loading rules from a file at `path` that holds no document. -/
def DocumentFault.loadError (path : Path) : DocumentFault → LoadError
  | encoding e => .encoding e
  | yaml f => .yaml path.toText f

/-- The rules in the file at `path`. -/
def loadFile (reader : DocumentReader) (path : Path) (content : Bytes) : Loading :=
  match reader content with
  | .error fault => ([], .error (fault.loadError path))
  | .ok data =>
    let (events, rules) := decodeRules data
    (events, rules.mapError .document)

/-- Whether a file is a rule file, by its name. -/
def isRuleFile (name : Text) : Bool :=
  [".yaml".toList, ".yml".toList].contains (Path.suffixOf name)

/-- The rules of what is at `path`, one after the other. -/
def loadEntries (reader : DocumentReader) (path : Path) : List (Text × FileTree) → Loading
  | [] => ([], .ok [])
  | (name, t) :: entries =>
    let (events, rules) := match t with
      | .file content => loadFile reader (path.child name) content
      | .folder _ => ([], .error (.isFolder (path.child name).toText))
    match rules with
    | .error e => (events, .error e)
    | .ok rules =>
      let (more, rest) := loadEntries reader path entries
      (events ++ more, rest.map (rules ++ ·))

/-- The rules in the folder at `path`. -/
def loadFolder (path : Path) (entries : List (Text × FileTree))
    (reader : DocumentReader := Yaml.readBytes) : Loading :=
  loadEntries reader path (FileTree.sorted (entries.filter fun (name, _) => isRuleFile name))

/-- The rules at `path`, which leads to a file or a folder. -/
def loadRules (fs : Files) (path : Path) (reader : DocumentReader := Yaml.readBytes) : Loading :=
  match fs.readBar? path, fs.find? path with
  | some e, _ => ([], .error (.barred e))
  | none, some (.file content) => loadFile reader path content
  | none, some (.folder entries) => loadFolder path entries reader
  | none, none => ([], .error (.notFound path.toText))

end SecretScan
