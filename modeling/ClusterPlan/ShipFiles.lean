import ClusterPlan.Environment
import ClusterPlan.Text.Pieces

/-!
# Ship files

Files that are to be shipped to the cluster must exist. `validateShipFiles` gives their absolute paths without
links, and otherwise names the first path that leads nowhere.
-/

namespace ClusterPlan

/-- A directory with the slashes at its end taken off; the root stays. -/
def homePath (home : String) : String :=
  let kept := String.ofList (home.toList.reverse.dropWhile (· = '/')).reverse
  if kept = "" then "/" else kept

/-- A path in which a tilde at the start stands for a home directory, that of the account whose name
follows it or else the user's. There may be no such home. -/
def expandHome (env : Environment) (p : Path) : Except Failure Path :=
  match p.root, p.names with
  | "", name :: names =>
    match name.toList with
    | '~' :: account =>
      if account.contains '\x00' then .error .embeddedNull
      else
        match env.home? (.ofList account) with
        | none => .error .homeless
        | some home =>
          let home := homePath home
          if home.startsWith "~" then .error .homeless
          else .ok ((Path.ofString home).join ⟨"", names⟩)
    | _ => .ok p
  | _, _ => .ok p

/-- The path that a text stands for, seen from a base directory and without links. -/
def resolveShipFile (env : Environment) (base : Path) (path : String) : Except Failure Path := do
  env.files.resolve env.directory (base.join (← expandHome env (.ofString path)))

/-- A path that cannot be resolved, because there is no home directory or no current directory, is a missing
ship file. -/
def orMissing (path : String) : Except Failure Path → Except Failure Path
  | .error .homeless | .error .noDirectory => .error (.shipFile path)
  | found => found

/-- The absolute path of a ship file. -/
def validateShipFile (env : Environment) (base : Path) (path : String) : Except Failure Path := do
  if Text.isBlankText path then
    throw (.shipFile path)
  let absolute ← orMissing path (resolveShipFile env base path)
  if !(← env.files.exists? env.directory absolute) then
    throw (.shipFile path)
  return absolute

/-- The absolute paths of ship files, which are checked in order. Relative paths are seen from the base
directory, by default the current one, which then must be there. -/
def validateShipFiles (env : Environment) (base : Option Path) (paths : List String) :
    Except Failure (List Path) := do
  let base ← match base with
    | some base => pure base
    | none => env.currentPath
  paths.mapM (validateShipFile env base)

end ClusterPlan
