import ClusterPlan.Program

/-!
# The command line

Reads what a run needs from the file system and the environment, and carries the run out. The files to
read become known in stages: the settings name the variables and files that count, and the base
configuration names the directory of the session record.
-/

namespace ClusterPlan.Main

/-- The environment variables that can count under some settings. -/
def variableNames (settings : Settings) : List String :=
  let named := [Setting.debugMode, Setting.confDir].filterMap fun x =>
    match settings.get x with
    | .ok (.str s) => some s
    | _ => none
  Environment.loginVariables ++ Environment.temporaryVariables ++
    ["HOME", "COLUMNS", "LINES", "XDG_CONFIG_HOME", Settings.fileVariable] ++ named

/-- The file of the base configuration, if the environment and the request name one. -/
def baseFile (env : Environment) (r : CommandLine.Request) : Except Failure (List Path) := do
  match ← confDir? env (r.confDir.map Path.ofString) with
  | none => return []
  | some directory => return [← Environment.below directory (← env.settings.get .baseConfig)]

/-- The file of the session record. -/
def sessionFile (env : Environment) (r : CommandLine.Request) : Except Failure (List Path) := do
  let base ← loadBase env (r.confDir.map Path.ofString)
  let directory ← Pass.sessionDirectory env base (r.propertiesDir.map Path.ofString)
  let name ← SessionRecord.fileName env.settings (← Pass.owner env none)
  return [directory.join (.ofString name)]

/-- The files to ship. -/
def shipFiles (env : Environment) (r : CommandLine.Request) : Except Failure (List Path) := do
  let o ← Overlay.ofOptions env.tolerance r.mode r.options
  return o.shipFiles.filterMap fun s => (expandHome env (.ofString s)).toOption

/-- The files that a run looks at, as far as they are known. -/
def wantedFiles (env : Environment) (arguments : List String) : List Path :=
  (Settings.places env).toOption.getD [] ++
    match CommandLine.Command.parse arguments with
    | .ok (.resolve r) =>
      [baseFile env r, sessionFile env r, shipFiles env r].flatMap fun files => files.toOption.getD []
    | _ => []

/-- Tries something that the system may refuse. -/
def attempt? {α : Type} (action : IO α) : IO (Option α) := do
  try
    return some (← action)
  catch _ =>
    return none

/-- Reads what stands at an absolute path, and the path without links that leads there. -/
def readNode (path : String) : IO (Option (String × FileNode)) := do
  match ← attempt? (IO.FS.realPath path) with
  | none => return none
  | some place =>
    if ← place.isDir then
      let searchable ← attempt? (IO.FS.realPath (place.toString ++ "/."))
      return some (place.toString, .directory searchable.isSome)
    match ← attempt? (IO.FS.readBinFile place) with
    | some content => return some (place.toString, .file content.toList)
    | none => return some (place.toString, .file [] false)

/-- Adds what stands at an absolute path to the files that are known. If what is known in front of the last name
does not lead there, this name is a link. -/
def addNode (files : FileTree) (path : Path) : IO FileTree := do
  match ← readNode path.text with
  | none => return files
  | some (place, node) =>
    let files := files.put [] (.ofString place) node
    match files.resolve [] path with
    | .ok found => return if found.text = place then files else files.put [] path (.link place)
    | .error _ => return files

/-- Adds what stands at a path, and everything on the way there. -/
def addFile (env : Environment) (p : Path) : IO Environment := do
  let path := env.absolute p
  let ways := (List.range path.names.length).map fun n => Path.mk path.root (path.names.take (n + 1))
  return { env with files := ← ways.foldlM addNode env.files }

/-- Whether a file can be kept in a directory. -/
def isUsable (directory : String) : IO Bool := do
  let file := s!"{directory}/ys-{← IO.monoNanosNow}"
  let kept ← attempt? do
    IO.FS.writeFile file ""
    IO.FS.removeFile file
  return kept.isSome

/-- The directory for temporary files. -/
def temporaryDirectory? (env : Environment) : IO (Option String) := do
  let found ← env.temporaryCandidates.findM? isUsable
  return found.map fun s =>
    let p := env.absolute (.ofString s)
    if s = "." then s else Path.text ⟨p.root, Path.descend [] p.names⟩

/-- The lines of a file of the system; it may not be there. -/
def systemLines (file : String) : IO (List String) := do
  return (((← attempt? (IO.FS.lines file)).map Array.toList).getD [])

/-- The accounts of the system. -/
def accounts : IO (List Account) := do
  return (← systemLines "/etc/passwd").filterMap fun line =>
    match (Text.pieces ':' line.toList).map String.ofList with
    | [name, _, id, _, _, home, _] => id.toNat?.map fun id => ⟨name, id, home⟩
    | _ => none

/-- The account that the program runs under. -/
def userId : IO Nat := do
  let ids := (← systemLines "/proc/self/status").filterMap fun line =>
    match (Text.words line.toList).map String.ofList with
    | "Uid:" :: id :: _ => id.toNat?
    | _ => none
  return ids.headD 0

/-- The surroundings before the program has looked around. The current directory may have been removed. -/
def surroundings : IO Environment := do
  let current ← attempt? IO.currentDir
  let path := (current.map (·.toString)).getD ((← IO.getEnv "PWD").getD "/removed")
  let directory := (Path.ofString path).names
  let env : Environment :=
    { files := .withDirectories (if current.isSome then [directory] else [])
      directory := directory
      vars := []
      settings := .standard
      accounts := ← accounts
      userId := ← userId }
  addFile env env.directoryPath

/-- Adds the variables and files that can be known by now. -/
def lookAround (arguments : List String) (env : Environment) : IO Environment := do
  let vars ← (variableNames env.settings).filterMapM fun name => do
    return (← IO.getEnv name).map (name, ·)
  let env := { env with vars }
  let env := { env with temporaryDirectory := ← temporaryDirectory? env }
  let env ← (wantedFiles env arguments).foldlM addFile env
  match Program.start env with
  | .ok p => return p.environment
  | .error _ => return env

/-- Prints what a run leaves behind. -/
def printOutcome (outcome : Outcome) : IO Unit := do
  for entry in outcome.log do
    match entry with
    | .info message => IO.eprintln s!"INFO {message}"
    | .error failure => IO.eprintln s!"ERROR {failure.message}"
    | .critical failure => IO.eprintln s!"CRITICAL {failure.message}"
  if let some complaint := outcome.complaint then
    IO.eprintln s!"Error: {complaint.message}"
  IO.print outcome.output

end ClusterPlan.Main

open ClusterPlan ClusterPlan.Main in
/-- Runs the program on its arguments. -/
def main (arguments : List String) : IO UInt32 := do
  let env ← [1, 2, 3].foldlM (fun env _ => lookAround arguments env) (← surroundings)
  match (Program.start env).bind fun p => p.run arguments with
  | .ok outcome =>
    printOutcome outcome
    return UInt32.ofNat (outcome.exitCode % 256).toNat
  | .error failure =>
    IO.eprintln failure.message
    return 1
