import SecretScan.Command.Run

/-!
# The program

Reads the files that a command line names, runs the command, and prints and writes what it comes to.
-/

namespace SecretScan

/-- The bytes of a file. -/
def bytesOf (content : ByteArray) : Bytes :=
  content.toList

/-- The files and folders at and below a path. -/
partial def readTree (here : Text) (path : Path) : IO (Option FileTree) := do
  let place := (← IO.currentDir) / String.ofList (Path.append (.ofText here) path).toText
  if ← place.isDir then
    let mut entries := []
    for entry in ← place.readDir do
      let name := entry.fileName.toList
      if let some t ← readTree here (path.child name) then
        entries := (name, t) :: entries
    return some (.folder entries)
  else if ← place.pathExists then
    return some (.file (bytesOf (← IO.FS.readBinFile place)))
  else return none

/-- What is known of a path that something is written to: whether it is a folder, and whether there
is a folder to hold it. -/
def readPlace (path : Path) : IO (List (Path × FileTree)) := do
  let mut trees := []
  for p in [path, ⟨path.isAbsolute, path.names.dropLast⟩] do
    let place := (← IO.currentDir) / String.ofList p.toText
    if ← place.isDir then trees := (p, .folder []) :: trees
    else if ← place.pathExists then trees := (p, .file []) :: trees
  return trees.reverse

/-- The files at several paths. -/
def readFiles (home : Path) (paths : List Path) : IO Files := do
  let mut trees := []
  for path in paths do
    let full := home.append path
    if let some t ← readTree home.toText full then trees := (full, t) :: trees
  return { home, trees := trees.reverse }

/-- The variables of the environment that can change settings. -/
def settingVariables : List String :=
  ["SECRETLENS_FORMAT", "SECRETLENS_LOG_LEVEL", "SECRETLENS_TIMEOUT_MS", "SECRETLENS_MAX_WORKERS",
   "SECRETLENS_MIN_ENTROPY", "SECRETLENS_DISABLE_RULES"]

/-- The environment. -/
def readEnvironment : IO Environment :=
  settingVariables.filterMapM fun name => do
    return (← IO.getEnv name).map fun value => (name, value.toList)

/-- The paths of rules that the settings of a command name. -/
def rulePaths (s : Surroundings) (command : Command) : List Path :=
  let settings := match command with
    | .scan args => (args.settings s).toOption
    | .rules args => (args.settings s).toOption
    | _ => none
  match settings.bind fun settings => settings.rules.paths.paths? with
  | some paths => paths.filterMap id
  | none => []

/-- All that a command can see. -/
def surroundings (command : Command) : IO Surroundings := do
  let home := Path.ofText (← IO.currentDir).toString.toList
  let env ← readEnvironment
  let named := ⟨false, [Settings.fileName]⟩ :: command.named
  let files ← readFiles home named
  let rules ← readFiles home (rulePaths { files, env } command)
  let written ← match command.output? with
    | some path => readPlace (home.append path)
    | none => pure []
  let trees := files.trees ++ rules.trees ++ written ++ [(home, .folder [])]
  return { files := { files with trees }, env }

/-- Runs a command. A scan is timed. -/
def perform (s : Surroundings) (command : Command) : IO Outcome := do
  match command, command.absent? s.files with
  | .scan args, none =>
    let (told, job) := args.job s
    match job with
    | .error r => return Outcome.refuse s { told } r
    | .ok job =>
      let start ← IO.monoMsNow
      let result ← IO.lazyPure fun _ => job.result
      let stop ← IO.monoMsNow
      return job.finish args s (result.after (stop - start).toFloat) { told }
  | command, _ => return command.runChecked s

/-- Prints and writes what a command comes to. -/
def deliver (o : Outcome) : IO UInt32 := do
  if let some (path, content) := o.written then
    IO.FS.writeFile (String.ofList path.toText) (String.ofList content)
  for line in o.told do IO.eprintln (String.ofList line)
  IO.print (String.ofList o.out)
  IO.eprint (String.ofList o.err)
  if let some r := o.stopped then IO.eprintln (r.message "syntax error")
  return o.exit.toUInt32

end SecretScan

open SecretScan in
/-- The program. -/
def main (words : List String) : IO UInt32 := do
  match Command.read (words.map String.toList) with
  | .error e => deliver e.outcome
  | .ok command => deliver (← perform (← surroundings command) command)
