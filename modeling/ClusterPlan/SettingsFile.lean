import ClusterPlan.ShipFiles
import ClusterPlan.Text.Bytes
import ClusterPlan.Toml.Document

/-!
# Settings files

Where the settings of the tool are looked for, and how they are read. Whatever is wrong with the file
is one failure that names it.
-/

namespace ClusterPlan.Settings

/-- The environment variable that names the settings file. -/
def fileVariable : String := "YS_CONFIG"

/-- The places where the settings file may be, in order: the one that the environment names, the
current directory, and the directory for configurations of the user. The current directory has to be there
and the home directory of the user has to be known even where it is not looked into. -/
def places (env : Environment) : Except Failure (List Path) := do
  let named := match env.lookup? fileVariable with
    | none | some "" => []
    | some s => [Path.ofString s]
  let current ← env.currentPath
  let home ← expandHome env ⟨"", ["~", ".config"]⟩
  let directory := match env.lookup? "XDG_CONFIG_HOME" with
    | some s => Path.ofString s
    | none => home
  return named ++ [current.join ⟨"", ["ys_config.toml"]⟩, directory.join ⟨"", ["ys", "config.toml"]⟩]

/-- The first of some paths that leads to a file. -/
def firstFile (env : Environment) : List Path → Except Failure (Option Path)
  | [] => .ok none
  | p :: ps => do
    if ← env.files.isFile env.directory p then
      return some p
    firstFile env ps

/-- The settings file that is used. -/
def file? (env : Environment) : Except Failure (Option Path) := do
  firstFile env (← places env)

/-- The data of a settings file; `none` if it cannot be read. -/
def data? (env : Environment) (file : Path) : Option (List (Value × Value)) :=
  match env.files.read env.directory file with
  | .error _ => none
  | .ok bytes =>
    match Text.decodeUtf8 bytes with
    | .error _ => none
    | .ok cs => Toml.read? cs

/-- The settings of a file, laid over the defaults; the defaults if there is no such file. -/
def ofFile (env : Environment) (file : Path) : Except Failure Settings :=
  match env.files.exists? env.directory file with
  | .error _ => .error (.settingsUnreadable file.text)
  | .ok false => .ok standard
  | .ok true =>
    match data? env file with
    | some data => .ok (overlay data)
    | none => .error (.settingsUnreadable file.text)

/-- The settings that are in force. -/
def load (env : Environment) : Except Failure Settings := do
  match ← file? env with
  | none => return standard
  | some file => ofFile env file

end ClusterPlan.Settings
