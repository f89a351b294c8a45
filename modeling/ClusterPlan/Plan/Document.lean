import ClusterPlan.Cluster
import ClusterPlan.Environment
import ClusterPlan.Yaml.Printer

/-!
# Plans

A plan is what a resolved configuration amounts to: the shape of the cluster, its descriptor and the
application to attach to. It is shown as a document or as a panel; this module holds the document.
-/

namespace ClusterPlan

/-- A plan. -/
structure Plan where
  specification : ClusterSpecification
  descriptor : ClusterDescriptor
  clusterId : Option ApplicationId

namespace Plan

/-- Whether a configuration has ship files that are seen from the current directory. -/
def shipsRelative (c : Configuration) : Bool :=
  match c.value? .shipFiles with
  | some (.list items) => items.any fun
    | .str s => !(Path.ofString s).isAbsolute
    | _ => false
  | _ => false

/-- The descriptor of a configuration. The current directory must be there if a ship file is seen from it. -/
def describe (env : Environment) (c : Configuration) : Except Failure ClusterDescriptor := do
  let descriptor ← c.descriptor env.tolerance env.directoryPath
  if shipsRelative c then
    discard env.currentPath
  return descriptor

/-- The plan of a configuration. -/
def ofConfiguration (env : Environment) (c : Configuration) : Except Failure Plan := do
  let specification ← c.specification
  let descriptor ← describe env c
  let clusterId ← c.clusterId env.tolerance
  return ⟨specification, descriptor, clusterId⟩

/-- The text of the ID of the application to attach to. -/
def clusterText (p : Plan) : Except Failure (Option String) :=
  match p.clusterId with
  | none => .ok none
  | some id => some <$> id.text

/-- A text, or the missing value. -/
def optionalText : Option String → Yaml.Sheet
  | none => .null
  | some s => .text s

/-- The plan as a YAML document. -/
def document (tolerance : Tolerance) (p : Plan) : Except Failure String := do
  let id ← p.clusterText
  let strings ← p.descriptor.configuration.toStrings tolerance
  let master ← writeInt p.specification.masterMegabytes
  let worker ← writeInt p.specification.workerMegabytes
  let slots ← writeInt p.specification.slots
  return Yaml.print [
    ("cluster_id", optionalText id),
    ("specification", .mapping [
      ("master_memory_mb", .word master),
      ("task_manager_memory_mb", .word worker),
      ("slots_per_task_manager", .word slots)]),
    ("ship_files", .list (p.descriptor.shipFiles.map Path.text)),
    ("node_label", optionalText p.descriptor.nodeLabel),
    ("configuration", .mapping (strings.entries.map fun (k, s) => (k, .text s)))]

end Plan

end ClusterPlan
