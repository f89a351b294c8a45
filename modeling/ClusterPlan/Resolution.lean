import ClusterPlan.Overlay
import ClusterPlan.Session

/-!
# Resolution

The final configuration comes from four sources, each overriding the ones before: the base
configuration, the session record, the options of the command line, and the overrides of single keys.
A session record does not count when the command line names the cluster. If no source names the target
of the deployment, it follows from the rest.
-/

namespace ClusterPlan

/-- The target of a session cluster. -/
def sessionTarget : String := "yarn-session"

/-- The target of a cluster for one job. -/
def jobTarget : String := "yarn-per-job"

/-- The target that follows from a configuration: a known application or the wish to attach means a
session cluster. -/
def deriveTarget (c : Configuration) (mode : Mode) : String :=
  if c.contains .applicationId || mode = .attach then sessionTarget else jobTarget

/-- The configuration with a session record on top, unless the command line names the cluster. The
ID of a record that is there is traced. -/
def applySession (tolerance : Tolerance) (base : Configuration) (session : Option SessionRecord)
    (overlay : Overlay) : Except Failure Configuration :=
  match session with
  | none => .ok base
  | some record => do
    discard record.clusterId.text
    if overlay.setsClusterId then
      return base
    base.merge tolerance (← record.toConfiguration tolerance).values

/-- The configuration with a target. -/
def withTarget (tolerance : Tolerance) (c : Configuration) (mode : Mode) :
    Except Failure Configuration :=
  if c.contains .target then .ok c
  else c.set tolerance ConfigOption.target.key (.str (deriveTarget c mode))

/-- The final configuration of all sources. It is traced, so all its values must have a text. -/
def resolve (tolerance : Tolerance) (base : Configuration) (session : Option SessionRecord)
    (overlay : Overlay) : Except Failure Configuration := do
  let c ← applySession tolerance base session overlay
  let c ← c.merge tolerance (← overlay.toConfiguration tolerance).values
  let c ← c.merge tolerance overlay.dynamic.values
  let c ← withTarget tolerance c overlay.mode
  discard c.quoted
  return c

end ClusterPlan
