import ClusterPlan.Configuration
import ClusterPlan.Environment
import ClusterPlan.Value.Order
import ClusterPlan.Yaml.Document

/-!
# Base configurations

The base configuration is a YAML file in a configuration directory. `loadBase` finds the directory and
reads the file; where there is no directory or no file the configuration is empty.
-/

namespace ClusterPlan

/-- The document in a file. -/
def openDocument (env : Environment) (file : Path) : Except Failure Yaml.Stream :=
  match env.files.read env.directory file with
  | .ok bytes => .ok (.ofBytes bytes)
  | .error (.fileFault fault path) =>
    .error (.configurationUnreadable file.text (Failure.fileFault fault path).message)
  | .error f => .error f

namespace Configuration

/-- The copy of a value that is stored under a key. Known keys hold values that need no copy. -/
def detachEntry (key : String) (v : Value) : Value :=
  if (ConfigOption.known? key).isSome then v else v.copy

theorem fits_detachEntry {key : String} {v : Value} (h : fits key v = true) :
    fits key (detachEntry key v) = true := by
  unfold detachEntry
  split
  · exact h
  · next hk => simp [fits, Option.not_isSome_iff_eq_none.1 hk]

/-- The configuration with copies of its values, as one that is made of a document has them. -/
def detach (c : Configuration) : Configuration :=
  ⟨c.values.map detachEntry, fun e he => by
    obtain ⟨e', he', rfl⟩ := List.mem_map.1 he
    exact fits_detachEntry (c.typed e' he')⟩

/-- The configuration that a document holds; `file` names it in messages. -/
def ofDocument (tolerance : Tolerance) (file : String) (document : Yaml.Stream) :
    Except Failure Configuration :=
  match Yaml.read document with
  | .error .malformed => .error (.configurationSyntax file)
  | .error .cut =>
    match document.ending with
    | .noText fault => .error (.notUtf8 fault)
    | .forbidden | .complete => .error (.configurationSyntax file)
  | .error (.impossible f) => .error f
  | .ok .null => .ok empty
  | .ok (.mapping tree) => do return (← ofTree tolerance tree).detach
  | .ok _ => .error (.configurationShape file)

/-- The configuration of a file. -/
def ofFile (env : Environment) (file : Path) : Except Failure Configuration := do
  ofDocument env.tolerance file.text (← openDocument env file)

end Configuration

/-- The configuration directory: the given one, or else the one that an environment variable names. -/
def confDir? (env : Environment) (given : Option Path) : Except Failure (Option Path) :=
  match given with
  | some directory => .ok (some directory)
  | none => do
    match ← Environment.variableNamed? env (← env.settings.get .confDir) with
    | none | some "" => return none
    | some directory => return some (.ofString directory)

/-- Loads the base configuration. -/
def loadBase (env : Environment) (given : Option Path) : Except Failure Configuration := do
  match ← confDir? env given with
  | none => return .empty
  | some directory =>
    let file ← Environment.below directory (← env.settings.get .baseConfig)
    if !(← env.files.isFile env.directory file) then
      return .empty
    Configuration.ofFile env file

end ClusterPlan
