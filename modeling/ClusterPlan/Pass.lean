import ClusterPlan.Cluster
import ClusterPlan.Resolution
import ClusterPlan.ShipFiles

/-!
# Resolution passes

A pass knows the base configuration and the session record of the user, and answers for given options
what the final configuration is and whether a session cluster takes part.
-/

namespace ClusterPlan

/-- The sources of a pass that do not depend on the options. -/
structure Pass where
  base : Configuration
  session : Option SessionRecord

namespace Pass

/-- The directory of the session record: the given one, or the one that a configuration names, or else that for
temporary files. -/
def sessionDirectory (env : Environment) (base : Configuration) (given : Option Path) : Except Failure Path :=
  match given, base.value? .sessionDirectory with
  | some directory, _ => .ok directory
  | none, some v => Path.ofString <$> v.text env.tolerance
  | none, none => Path.ofString <$> env.temporaryPath

/-- The owner of the session record, who is the user of the program if no one is given. -/
def owner (env : Environment) : Option String → Except Failure String
  | none | some "" => env.loginName
  | some user => .ok user

/-- Prepares a pass: the session record of the owner is loaded from its directory. -/
def prepare (env : Environment) (base : Configuration) (directory : Option Path)
    (user : Option String) : Except Failure Pass := do
  let directory ← sessionDirectory env base directory
  let user ← owner env user
  return ⟨base, ← SessionRecord.load env directory user⟩

/-- The overlay of some options, with the ship files as absolute paths. -/
def overlay (env : Environment) (options : Overlay.Options) (mode : Mode) :
    Except Failure Overlay := do
  let o ← Overlay.ofOptions env.tolerance mode options
  if o.shipFiles.isEmpty then
    return o
  let files ← validateShipFiles env none o.shipFiles
  return { o with shipFiles := files.map Path.text }

/-- The final configuration for some options. -/
def toConfiguration (env : Environment) (pass : Pass) (options : Overlay.Options) (mode : Mode) :
    Except Failure Configuration := do
  resolve env.tolerance pass.base pass.session (← overlay env options mode)

/-- Whether there is a session cluster to attach to. -/
def isActive (env : Environment) (pass : Pass) (options : Overlay.Options) :
    Except Failure Bool := do
  let o ← Overlay.ofOptions env.tolerance .run options
  return o.setsClusterId || pass.base.contains .applicationId || pass.session.isSome

/-- Whether the session record takes part: it is there and the command line names no other cluster. -/
def usesSession (env : Environment) (pass : Pass) (options : Overlay.Options) :
    Except Failure Bool := do
  if pass.session.isNone then
    return false
  let o ← Overlay.ofOptions env.tolerance .run options
  return !o.setsClusterId

end Pass

end ClusterPlan
