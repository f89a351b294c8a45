import ClusterPlan.Ordered
import ClusterPlan.Text.Case
import ClusterPlan.Text.Pieces
import ClusterPlan.Value

/-!
# Configuration options

An option binds a key of a configuration to a type of values, a default and a description. `convert`
turns any value into one of the type of the option or says why it cannot; `format` writes a value of
the type as a text that converts back. `registry` lists the options that are known.
-/

namespace ClusterPlan

/-- The types of values an option can have. -/
inductive OptionType where
  | string
  | integer
  | boolean
  | memory
  | duration
  | list
deriving DecidableEq, Repr

namespace OptionType

def all : List OptionType := [string, integer, boolean, memory, duration, list]

/-- The name of a type. -/
def name : OptionType → String
  | string => "STRING"
  | integer => "INTEGER"
  | boolean => "BOOLEAN"
  | memory => "MEMORY"
  | duration => "DURATION"
  | list => "LIST"

/-- The type with a given name in letters of any case. -/
def ofName (name : String) : Except Failure OptionType :=
  let name := Text.upperString name
  match all.find? fun t => t.name = name with
  | some t => .ok t
  | none => .error (.keyMissing name)

def isText : Value → Bool
  | .str _ => true
  | _ => false

/-- Whether a value is of a type. A list holds texts only. -/
def holds : OptionType → Value → Bool
  | string, .str _ => true
  | integer, .int _ => true
  | boolean, .bool _ => true
  | memory, .memory _ => true
  | duration, .duration _ => true
  | list, .list items => items.all isText
  | _, _ => false

end OptionType

/-- An option of a configuration. -/
structure ConfigOption where
  key : String
  type : OptionType
  default : Option Value
  description : String

namespace ConfigOption

/-- What stands between the items of a list that is written as one text. -/
def listSeparator : Char := ';'

/-- The items of a list that is written as one text: the pieces without the blanks around them, the
blank pieces left out. -/
def splitList (s : String) : List String :=
  (((Text.pieces listSeparator s.toList).map Text.trim).filter fun p => !p.isEmpty).map String.ofList

/-- The texts of some values. -/
def texts (tolerance : Tolerance) (vs : List Value) : Except Failure (List String) :=
  vs.mapM (Value.text tolerance)

/-- Reads a truth value, in letters of any case and with blanks around it. -/
def readBool? (s : String) : Option Bool :=
  match String.ofList (Text.lower (Text.trim s.toList)) with
  | "true" => some true
  | "false" => some false
  | _ => none

/-- Turns a value into one of the type of the option. -/
def convert (tolerance : Tolerance) (o : ConfigOption) (v : Value) : Except Failure Value :=
  match o.type, v with
  | _, .null => .error (.valueMissing o.key)
  | .string, v => do return .str (← v.text tolerance)
  | .integer, .int i => .ok (.int i)
  | .integer, v => do
    let text ← v.text tolerance
    match Text.readInt (Text.trim text.toList) with
    | .number i => .ok (.int i)
    | _ => .error (.notInteger o.key text)
  | .boolean, .bool b => .ok (.bool b)
  | .boolean, v => do
    let text ← v.text tolerance
    match readBool? text with
    | some b => .ok (.bool b)
    | none => .error (.notBoolean o.key text)
  | .memory, .memory m => .ok (.memory m)
  | .memory, v => do return .memory (← MemorySize.parse (← v.text tolerance))
  | .duration, .duration d => .ok (.duration d)
  | .duration, v => do return .duration (← Duration.parse (← v.text tolerance))
  | .list, .str s => .ok (.list ((splitList s).map .str))
  | .list, .list items => do return .list ((← texts tolerance items).map .str)
  | .list, .knot true _ items => do return .list ((← texts tolerance items).map .str)
  | .list, .tuple items => do return .list ((← texts tolerance items).map .str)
  | .list, v => do .error (.notList o.key (← v.text tolerance))

/-- The text of a list item; an item that is no text cannot be written. -/
def itemText (o : ConfigOption) : Value → Except Failure String
  | .str s => .ok s
  | _ => .error (.mistyped o.key)

/-- The text of a size: whole megabytes, or bytes if it is not a whole number of them. -/
def formatMemory (m : MemorySize) : Except Failure String :=
  if m.bytes % MemoryUnit.mega.factor = 0 then do return (← writeInt m.megabytes) ++ "m"
  else m.exactText

/-- Writes a value of the type of the option. -/
def format (tolerance : Tolerance) (o : ConfigOption) (v : Value) : Except Failure String :=
  match o.type, v with
  | .boolean, v => .ok (if v.truthy then "true" else "false")
  | .memory, .memory m => formatMemory m
  | .memory, _ => .error (.mistyped o.key)
  | .duration, .duration d => .ok d.format
  | .duration, _ => .error (.mistyped o.key)
  | .list, .list items => do
    return (String.singleton listSeparator).intercalate (← items.mapM (itemText o))
  | .list, _ => .error (.mistyped o.key)
  | .string, v => v.text tolerance
  | .integer, v => v.text tolerance

def masterMemory : ConfigOption :=
  ⟨"jobmanager.memory.process.size", .memory, some (.memory (.ofMegabytes 1600)),
    "Total process memory of the job manager."⟩

def workerMemory : ConfigOption :=
  ⟨"taskmanager.memory.process.size", .memory, some (.memory (.ofMegabytes 1728)),
    "Total process memory of a task manager."⟩

def slots : ConfigOption :=
  ⟨"taskmanager.numberOfTaskSlots", .integer, some (.int 1),
    "Number of slots offered by each task manager."⟩

def attached : ConfigOption :=
  ⟨"execution.attached", .boolean, some (.bool true),
    "Whether the client stays attached to the submitted job."⟩

def target : ConfigOption :=
  ⟨"execution.target", .string, none, "Deployment target, 'yarn-session' or 'yarn-per-job'."⟩

def namespaceId : ConfigOption :=
  ⟨"high-availability.cluster-id", .string, none, "High-availability namespace of the cluster."⟩

def applicationId : ConfigOption :=
  ⟨"yarn.application.id", .string, none,
    "ID of the YARN application (session cluster) to attach to."⟩

def nodeLabel : ConfigOption :=
  ⟨"yarn.application.node-label", .string, none,
    "Node label restricting where the application runs."⟩

def shipFiles : ConfigOption :=
  ⟨"yarn.ship-files", .list, some (.list []), "Files and directories shipped to the cluster."⟩

/-- The directory for temporary files, which the surroundings of a run know, is its default. -/
def sessionDirectory : ConfigOption :=
  ⟨"yarn.properties-file.location", .string, none,
    "Directory containing the session properties file."⟩

def masterAddress : ConfigOption :=
  ⟨"jobmanager.rpc.address", .string, none, "Host of the job manager."⟩

def masterPort : ConfigOption :=
  ⟨"jobmanager.rpc.port", .integer, some (.int 6123), "Port of the job manager."⟩

def askTimeout : ConfigOption :=
  ⟨"pekko.ask.timeout", .duration, some (.duration ⟨10000000⟩), "Timeout of RPC requests."⟩

def javaOptions : ConfigOption :=
  ⟨"env.java.opts.all", .string, some (.str ""),
    "Extra options passed to all JVMs of the cluster."⟩

/-- The known options. -/
def registry : List ConfigOption :=
  [masterMemory, workerMemory, slots, attached, target, namespaceId, applicationId, nodeLabel,
    shipFiles, sessionDirectory, masterAddress, masterPort, askTimeout, javaOptions]

/-- The known option with the given key. -/
def known? (key : String) : Option ConfigOption :=
  registry.find? fun o => o.key = key

end ConfigOption

end ClusterPlan
