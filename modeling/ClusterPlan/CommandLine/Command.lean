import ClusterPlan.CommandLine.Arguments
import ClusterPlan.Overlay

/-!
# Commands

What the arguments of the program ask for: help, the version, or a resolution with its options.
-/

namespace ClusterPlan.CommandLine

/-- What a resolution is asked to do. -/
structure Request where
  mode : Mode
  confDir : Option String
  propertiesDir : Option String
  /-- Whether the plan is wanted as a document and not as a panel. -/
  asDocument : Bool
  options : Overlay.Options

/-- What the program can be asked for. -/
inductive Command where
  | help
  | version
  | resolveHelp
  | resolve (request : Request)

namespace Command

def helpFlag : Flag := ⟨"help", ["-h", "--help"], false, "Show this message and exit."⟩

/-- The options of the program itself. -/
def programFlags : List Flag :=
  [⟨"version", ["--version"], false, "Print the current version and exit."⟩, helpFlag]

/-- The options of a resolution. -/
def resolveFlags : List Flag :=
  [⟨"mode", ["--mode"], true, "Submit a job ('run') or attach to a session cluster ('attach')."⟩,
    ⟨"conf_dir", ["--conf-dir"], true, "Directory containing the base configuration."⟩,
    ⟨"properties_dir", ["--properties-dir"], true,
      "Directory containing the session properties file."⟩,
    ⟨"as_yaml", ["--yaml"], false, "Print the plan as a document instead of a panel."⟩,
    ⟨CommandOption.masterMemory.name, ["-jm", "--jobmanager-memory"], true,
      "Total process memory of the job manager."⟩,
    ⟨CommandOption.workerMemory.name, ["-tm", "--taskmanager-memory"], true,
      "Total process memory of each task manager."⟩,
    ⟨CommandOption.slots.name, ["-s", "--slots"], true, "Number of slots per task manager."⟩,
    ⟨CommandOption.applicationId.name, ["-id", "--application-id"], true,
      "ID of the application to attach to."⟩,
    ⟨CommandOption.namespaceId.name, ["-z", "--zookeeper-namespace"], true,
      "Namespace for high availability."⟩,
    ⟨CommandOption.nodeLabel.name, ["-nl", "--node-label"], true, "Node label of the application."⟩,
    ⟨CommandOption.detached.name, ["-d", "--detached"], false,
      "Do not stay attached to the job after submission."⟩,
    ⟨CommandOption.ship.name, ["-t", "--ship"], true,
      "File or directory to ship to the cluster. Can be repeated."⟩,
    ⟨CommandOption.dynamic.name, ["-D"], true,
      "Override a configuration option with KEY=VALUE. Can be repeated."⟩,
    helpFlag]

/-- The options that take one text. -/
def textOptions : List CommandOption :=
  [.masterMemory, .workerMemory, .slots, .applicationId, .namespaceId, .nodeLabel]

/-- The options that can be repeated. -/
def repeatedOptions : List CommandOption :=
  [.ship, .dynamic]

/-- The values of the options of an overlay. -/
def overlayOptions (a : Arguments) : Overlay.Options :=
  .ofList (textOptions.map (fun o => (o.name, ((a.value? o.name).map Value.str).getD .null))
    ++ (CommandOption.detached.name, .bool (a.has CommandOption.detached.name))
    :: repeatedOptions.map fun o => (o.name, .tuple ((a.values o.name).map .str)))

/-- A directory; the empty text stands for none. -/
def directory? (a : Arguments) (name : String) : Option String :=
  (a.value? name).filter (· != "")

/-- The mode; it may be written in letters of any case. -/
def readMode (a : Arguments) : Except UsageError Mode :=
  match a.value? "mode" with
  | none => .ok .run
  | some text =>
    match Mode.parse text with
    | .ok mode => .ok mode
    | .error _ => .error (.badChoice "--mode" text)

/-- The command of a resolution. -/
def readResolve (arguments : List String) : Except UsageError Command := do
  let a ← readArguments resolveFlags true arguments
  if a.has helpFlag.name then
    return .resolveHelp
  let mode ← readMode a
  if let word :: _ := a.words then
    throw (.extraArgument word)
  return .resolve
    { mode
      confDir := directory? a "conf_dir"
      propertiesDir := directory? a "properties_dir"
      asDocument := a.has "as_yaml"
      options := overlayOptions a }

/-- The name of the command for a resolution. -/
def resolveName : String := "resolve"

/-- The command that arguments ask for. A wish for help comes first, even behind the two dashes that end
the options if no command precedes it, and one for the version comes before the arguments of a
resolution are read. -/
def parse (arguments : List String) : Except UsageError Command := do
  let a ← readArguments programFlags false arguments
  if a.has helpFlag.name then
    return .help
  match a.words with
  | [] => return if a.has "version" then .version else .help
  | name :: rest =>
    if name ≠ resolveName then
      if (← readArguments programFlags false a.words).has helpFlag.name then
        return .help
      throw (.unknownCommand name)
    if a.has "version" then
      return .version
    readResolve rest

/-- The lines that describe some options. -/
def flagLines (flags : List Flag) : String :=
  String.join (flags.map fun f => "  " ++ ", ".intercalate f.spellings ++ "  " ++ f.help ++ "\n")

/-- The help of the program. -/
def helpText : String :=
  "Usage: ys [OPTIONS] COMMAND [ARGS]...\n\nOptions:\n" ++ flagLines programFlags
    ++ "\nCommands:\n  " ++ resolveName ++ "  Resolve the configuration of a YARN cluster.\n"

/-- The help of a resolution. -/
def resolveHelpText : String :=
  "Usage: ys " ++ resolveName ++ " [OPTIONS]\n\nOptions:\n" ++ flagLines resolveFlags

end Command

end ClusterPlan.CommandLine
