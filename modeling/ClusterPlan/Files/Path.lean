import ClusterPlan.Text.Pieces

/-!
# Paths

A path is a root and the names below it. Reading a path drops empty names and single dots, and keeps
double dots, which only the file system can interpret. A path that begins with exactly two slashes
keeps both; any other number of leading slashes is one.
-/

namespace ClusterPlan

/-- A path; the root of a relative path is empty. -/
structure Path where
  root : String
  names : List String
deriving DecidableEq, Repr, Inhabited

namespace Path

/-- The texts between slashes, the empty ones included. -/
def segments (s : String) : List String :=
  (Text.pieces '/' s.toList).map String.ofList

/-- The names among some segments. -/
def namesOf (segments : List String) : List String :=
  segments.filter fun s => s != "" && s != "."

/-- The root of a text. -/
def rootOf (s : String) : String :=
  match (s.toList.takeWhile (· = '/')).length with
  | 0 => ""
  | 2 => "//"
  | _ => "/"

def ofString (s : String) : Path :=
  ⟨rootOf s, namesOf (segments s)⟩

/-- The text of a path; the relative path without names is a single dot. -/
def text (p : Path) : String :=
  if p.root = "" && p.names.isEmpty then "." else p.root ++ "/".intercalate p.names

def isAbsolute (p : Path) : Bool :=
  p.root != ""

/-- What is looked up when a path is followed; the relative path without names is looked up where it
starts. -/
def steps (p : Path) : List String :=
  if p.root = "" && p.names.isEmpty then ["."] else p.names

/-- The second path seen from the first: an absolute path stays as it is. -/
def join (p q : Path) : Path :=
  if q.isAbsolute then q else ⟨p.root, p.names ++ q.names⟩

/-- Goes from a list of names down a relative path, a double dot leading one name up. -/
def descend (start : List String) (names : List String) : List String :=
  names.foldl (fun at_ n => if n = ".." then at_.dropLast else at_ ++ [n]) start

end Path

end ClusterPlan
