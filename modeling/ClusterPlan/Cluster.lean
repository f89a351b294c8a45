import ClusterPlan.ApplicationId
import ClusterPlan.Configuration
import ClusterPlan.Files.Path

/-!
# Clusters

What a configuration says about the cluster: the shape of its resources, the ID of the application to
attach to, and the descriptor that a deployment needs.
-/

namespace ClusterPlan

/-- The memory of each role in whole megabytes, and the slots of each task manager. -/
structure ClusterSpecification where
  masterMegabytes : Int
  workerMegabytes : Int
  slots : Int
deriving DecidableEq, Repr

/-- Everything that a deployment needs. -/
structure ClusterDescriptor where
  configuration : Configuration
  /-- The files to ship as absolute paths. -/
  shipFiles : List Path
  nodeLabel : Option String

namespace Configuration

/-- The size under an option of that type. -/
def memory (c : Configuration) (o : ConfigOption) : Except Failure MemorySize :=
  match c.value? o with
  | some (.memory m) => .ok m
  | _ => .error (.mistyped o.key)

/-- The shape of the cluster. It is traced, so its numbers must have a text. -/
def specification (c : Configuration) : Except Failure ClusterSpecification := do
  let master ← c.memory .masterMemory
  let worker ← c.memory .workerMemory
  match c.value? .slots with
  | some (.int slots) =>
    let s : ClusterSpecification := ⟨master.megabytes, worker.megabytes, slots⟩
    discard (writeInt s.masterMegabytes)
    discard (writeInt s.workerMegabytes)
    discard (writeInt s.slots)
    return s
  | _ => throw (.mistyped ConfigOption.slots.key)

/-- The application to attach to; there is none if a new cluster is to be started. -/
def clusterId (tolerance : Tolerance) (c : Configuration) :
    Except Failure (Option ApplicationId) :=
  match c.value? .applicationId with
  | none => .ok none
  | some v => do return some (← ApplicationId.parse (← v.text tolerance))

/-- The configuration in which the application to attach to is the namespace of the cluster, unless a
namespace is set. -/
def withNamespace (tolerance : Tolerance) (c : Configuration) : Except Failure Configuration := do
  match ← c.clusterId tolerance with
  | none => return c
  | some id =>
    if c.contains .namespaceId then
      return c
    c.set tolerance ConfigOption.namespaceId.key (.str (← id.text))

/-- The descriptor of the cluster. Ship files are seen from the current directory. -/
def descriptor (tolerance : Tolerance) (directory : Path) (c : Configuration) :
    Except Failure ClusterDescriptor := do
  let c ← c.withNamespace tolerance
  let files ← match c.value? .shipFiles with
    | some (.list items) => items.mapM (ConfigOption.shipFiles.itemText ·)
    | _ => throw (.mistyped ConfigOption.shipFiles.key)
  let label ← match c.value? .nodeLabel with
    | none => pure none
    | some v => some <$> v.text tolerance
  return ⟨c, files.map fun f => directory.join (.ofString f), label⟩

end Configuration

end ClusterPlan
