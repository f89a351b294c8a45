import ClusterPlan.Files.Tree
import ClusterPlan.Settings

/-!
# Environment

What the program finds around it: the file tree, the current directory, the environment variables, the
accounts of the system, the directory for temporary files, and the settings of the tool.
-/

namespace ClusterPlan

/-- An account of the system. -/
structure Account where
  name : String
  id : Nat
  home : String
deriving DecidableEq, Repr

/-- The surroundings of a run. -/
structure Environment where
  files : FileTree
  /-- The names that lead to the current directory, which may have been removed since. -/
  directory : List String
  vars : List (String × String)
  settings : Settings
  accounts : List Account := []
  /-- The account that the program runs under; it need not be among those that are known. -/
  userId : Nat := 0
  /-- The directory for temporary files, the first usable one of `temporaryCandidates`. -/
  temporaryDirectory : Option String := none
deriving Inhabited

namespace Environment

/-- The value of an environment variable. -/
def lookup? (env : Environment) (name : String) : Option String :=
  env.vars.lookup name

def tolerance (env : Environment) : Tolerance :=
  env.settings.tolerance

/-- The variables that can hold the login name, the first that is not empty counts. -/
def loginVariables : List String := ["LOGNAME", "USER", "LNAME", "USERNAME"]

/-- The account of the user, if it is known. -/
def account? (env : Environment) : Option Account :=
  env.accounts.find? fun a => a.id = env.userId

/-- The login name of the user: that of the environment, or else that of the account. -/
def loginName (env : Environment) : Except Failure String :=
  match (loginVariables.filterMap env.lookup?).find? fun s => s != "" with
  | some name => .ok name
  | none =>
    match env.account? with
    | some account => .ok account.name
    | none => .error (.keyMissing s!"getpwuid(): uid not found: {env.userId}")

/-- The home directory of an account, the user's own if no name is given; the environment prevails for
that one. -/
def home? (env : Environment) (account : String) : Option String :=
  if account = "" then (env.lookup? "HOME").or (env.account?.map Account.home)
  else (env.accounts.find? fun a => a.name = account).map Account.home

/-- The current directory as a path. -/
def directoryPath (env : Environment) : Path :=
  ⟨"/", env.directory⟩

/-- The current directory as a path, if it is still there. -/
def currentPath (env : Environment) : Except Failure Path :=
  if env.files.isDirectory env.directory then .ok env.directoryPath else .error .noDirectory

/-- The variables that can name the directory for temporary files, in order. -/
def temporaryVariables : List String := ["TMPDIR", "TEMP", "TMP"]

/-- The directories in which temporary files are tried to be kept, in order. -/
def temporaryCandidates (env : Environment) : List String :=
  (temporaryVariables.filterMap env.lookup?).filter (fun s => s != "") ++ ["/tmp", "/var/tmp", "/usr/tmp"] ++
    [if env.files.isDirectory env.directory then env.directoryPath.text else "."]

/-- The directory for temporary files; there may be none that can be used. -/
def temporaryPath (env : Environment) : Except Failure String :=
  match env.temporaryDirectory with
  | some directory => .ok directory
  | none => .error (.noTemporaryDirectory env.temporaryCandidates)

/-- A path seen from the current directory. -/
def absolute (env : Environment) (p : Path) : Path :=
  env.directoryPath.join p

/-- A path below a directory, by a name that comes from the settings. -/
def below (directory : Path) (name : Value) : Except Failure Path :=
  match name with
  | .str s => .ok (directory.join (.ofString s))
  | v => .error (.wrongType
      s!"unsupported operand type(s) for /: 'PosixPath' and '{v.kindName}'")

/-- The environment variable whose name is a value of the settings. -/
def variableNamed? (env : Environment) (name : Value) : Except Failure (Option String) :=
  match name with
  | .str s => .ok (env.lookup? s)
  | v => .error (.wrongType s!"str expected, not {v.kindName}")

end Environment

end ClusterPlan
