import ClusterPlan.ApplicationId
import ClusterPlan.Configuration
import ClusterPlan.Text.Pieces

/-!
# Overlays

An overlay holds what the user asked for on the command line and nothing else: options that were not
given stay empty, so that the resolution can tell them from those that were. `ofOptions` reads an
overlay off the values of the options.
-/

namespace ClusterPlan

/-- What the program is run for. -/
inductive Mode where
  /-- To submit a job. -/
  | run
  /-- To attach to a session cluster. -/
  | attach
deriving DecidableEq, Repr, Inhabited

namespace Mode

def name : Mode → String
  | run => "run"
  | attach => "attach"

/-- Reads a mode, in letters of any case. -/
def parse (s : String) : Except Failure Mode :=
  match Text.upperString s with
  | "RUN" => .ok run
  | "ATTACH" => .ok attach
  | _ => .error (.unknownMode s)

end Mode

/-- What the user asked for. -/
structure Overlay where
  mode : Mode := .run
  clusterId : Option String := none
  masterMemory : Option MemorySize := none
  workerMemory : Option MemorySize := none
  slots : Option Int := none
  detached : Bool := false
  namespaceId : Option String := none
  nodeLabel : Option String := none
  shipFiles : List String := []
  /-- The overrides of single keys, which are applied last. -/
  dynamic : Configuration := .empty

instance : Inhabited Overlay := ⟨{}⟩

/-- An option of the command line: the name of its value and the flag that gives it. -/
structure CommandOption where
  name : String
  flag : String
deriving DecidableEq, Repr

namespace CommandOption

def masterMemory : CommandOption := ⟨"jobmanager_memory", "--jobmanager-memory"⟩
def workerMemory : CommandOption := ⟨"taskmanager_memory", "--taskmanager-memory"⟩
def slots : CommandOption := ⟨"slots", "--slots"⟩
def detached : CommandOption := ⟨"detached", "--detached"⟩
def namespaceId : CommandOption := ⟨"zookeeper_namespace", "--zookeeper-namespace"⟩
def nodeLabel : CommandOption := ⟨"node_label", "--node-label"⟩
def applicationId : CommandOption := ⟨"application_id", "--application-id"⟩
def dynamic : CommandOption := ⟨"dynamic_properties", "-D"⟩
def ship : CommandOption := ⟨"ship", "--ship"⟩

end CommandOption

namespace Overlay

/-- The values of the options by name. -/
abbrev Options := Ordered Value

/-- The value of an option; no value and the missing value are the same. -/
def given? (options : Options) (o : CommandOption) : Option Value :=
  match options.get? o.name with
  | none | some .null => none
  | some v => some v

/-- A text that is not blank, without the blanks around it. -/
def readText (tolerance : Tolerance) (options : Options) (o : CommandOption) :
    Except Failure (Option String) :=
  match given? options o with
  | none => .ok none
  | some (.str s) =>
    if Text.isBlankText s then .error (.misuse o.flag (.blank s)) else .ok (some (Text.strip s))
  | some v => do .error (.misuse o.flag (.blank (← v.text tolerance)))

/-- The items of a value that can be gone through. -/
def items? : Value → Option (List Value)
  | .list vs | .tuple vs | .set vs => some vs
  | .mapping es => some (es.map Prod.fst)
  | .bytes data => some (data.map fun b => .int b.toNat)
  | _ => none

/-- A list of texts; a single text is a list of one. -/
def readList (tolerance : Tolerance) (options : Options) (o : CommandOption) :
    Except Failure (List String) :=
  match given? options o with
  | none => .ok []
  | some (.str s) => .ok [s]
  | some v =>
    match items? v with
    | some vs => ConfigOption.texts tolerance vs
    | none => do .error (.misuse o.flag (.noList (← v.text tolerance)))

/-- A memory size; the failure names the flag. -/
def readMemory (tolerance : Tolerance) (options : Options) (o : CommandOption) :
    Except Failure (Option MemorySize) := do
  match ← readText tolerance options o with
  | none => return none
  | some s =>
    match MemorySize.parse s with
    | .ok m => return some m
    | .error f => throw (if f.family = .memory then .memoryOption o.flag f else f)

/-- The number of slots, at least one. -/
def readSlots (tolerance : Tolerance) (options : Options) : Except Failure (Option Int) :=
  match given? options .slots with
  | none => .ok none
  | some v => do
    let text ← v.text tolerance
    match Text.readInt (Text.trim text.toList) with
    | .number i =>
      if i < 1 then
        throw (.misuse CommandOption.slots.flag (.tooFew (← writeInt i)))
      return some i
    | _ => throw (.misuse CommandOption.slots.flag (.noInteger text))

/-- The application ID as it was written; it must be one. -/
def readClusterId (tolerance : Tolerance) (options : Options) : Except Failure (Option String) := do
  match ← readText tolerance options .applicationId with
  | none => return none
  | some s =>
    match ApplicationId.parse s with
    | .ok _ => return some s
    | .error f =>
      throw (if f.isExpected then .rejectedOption CommandOption.applicationId.flag f else f)

/-- Sets one key of the overrides. A value for the application ID must be one. -/
def putOverride (tolerance : Tolerance) (c : Configuration) (key value : String) :
    Except Failure Configuration := do
  let c ← c.set tolerance key (.str value)
  if key = ConfigOption.applicationId.key then
    discard (ApplicationId.parse value)
  return c

/-- Applies an override `key=value`. -/
def applyOverride (tolerance : Tolerance) (c : Configuration) (item : String) :
    Except Failure Configuration :=
  match Text.assignment? item with
  | none => .error (.misuse CommandOption.dynamic.flag (.noAssignment item))
  | some (key, value) =>
    match putOverride tolerance c key value with
    | .ok c => .ok c
    | .error f =>
      .error (if f.isExpected && f.family != .memory then .rejectedOption CommandOption.dynamic.flag f
        else f)

/-- The overrides of some items, later ones on top of earlier ones. -/
def applyOverrides (tolerance : Tolerance) (items : List String) : Except Failure Configuration :=
  items.foldlM (applyOverride tolerance) .empty

/-- The numbers that are given. -/
def numbers (o : Overlay) : List Value :=
  [o.masterMemory.map .memory, o.workerMemory.map .memory, o.slots.map .int].filterMap id

/-- A finished overlay is traced, so its numbers and overrides must have a text. -/
def trace (o : Overlay) : Except Failure Unit := do
  o.numbers.forM fun v => discard v.quoted
  discard o.dynamic.quoted

/-- Reads an overlay off the values of the options. -/
def ofOptions (tolerance : Tolerance) (mode : Mode) (options : Options) : Except Failure Overlay := do
  let clusterId ← readClusterId tolerance options
  let masterMemory ← readMemory tolerance options .masterMemory
  let workerMemory ← readMemory tolerance options .workerMemory
  let slots ← readSlots tolerance options
  let detached := ((given? options .detached).map Value.truthy).getD false
  let namespaceId ← readText tolerance options .namespaceId
  let nodeLabel ← readText tolerance options .nodeLabel
  let shipFiles ← readList tolerance options .ship
  let dynamic ← applyOverrides tolerance (← readList tolerance options .dynamic)
  let overlay : Overlay :=
    { mode, clusterId, masterMemory, workerMemory, slots, detached, namespaceId, nodeLabel,
      shipFiles, dynamic }
  overlay.trace
  return overlay

/-- Sets an option if there is a value for it. -/
def setIfGiven (tolerance : Tolerance) (o : ConfigOption) (v : Option Value) (c : Configuration) :
    Except Failure Configuration :=
  match v with
  | none => .ok c
  | some v => c.set tolerance o.key v

/-- What the options other than the overrides set. -/
def toConfiguration (tolerance : Tolerance) (o : Overlay) : Except Failure Configuration := do
  let c ← setIfGiven tolerance .applicationId (o.clusterId.map .str) .empty
  let c ← setIfGiven tolerance .masterMemory (o.masterMemory.map .memory) c
  let c ← setIfGiven tolerance .workerMemory (o.workerMemory.map .memory) c
  let c ← setIfGiven tolerance .slots (o.slots.map .int) c
  let c ← setIfGiven tolerance .namespaceId (o.namespaceId.map .str) c
  let c ← setIfGiven tolerance .nodeLabel (o.nodeLabel.map .str) c
  let c ← setIfGiven tolerance .attached (if o.detached then some (.bool false) else none) c
  setIfGiven tolerance .shipFiles
    (if o.shipFiles.isEmpty then none else some (.list (o.shipFiles.map .str))) c

/-- Whether the command line names the cluster in any way. -/
def setsClusterId (o : Overlay) : Bool :=
  o.clusterId.isSome || o.dynamic.contains .applicationId

end Overlay

end ClusterPlan
