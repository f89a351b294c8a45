import ClusterPlan.Failure
import ClusterPlan.Files.Path

/-!
# File trees

The state of a file system: files, directories and symbolic links by the names that lead to them from
the root, and whether the files can be read and the directories searched. `locate` follows a path as the
operating system does, `resolve` writes a path without links and double dots, whether or not it leads
anywhere.
-/

namespace ClusterPlan

/-- What stands at a place of a file tree. -/
inductive FileNode where
  | file (content : List UInt8) (readable : Bool := true)
  | directory (searchable : Bool := true)
  | link (target : String)
deriving DecidableEq, Repr

/-- A file tree. The root is a directory that can be searched. -/
structure FileTree where
  nodes : List (List String × FileNode)
deriving Inhabited

namespace FileTree

/-- What stands at a place. -/
def node? (t : FileTree) (place : List String) : Option FileNode :=
  if place.isEmpty then some .directory else t.nodes.lookup place

/-- A directory in which names can be looked up. -/
def isOpen (t : FileTree) (place : List String) : Bool :=
  t.node? place == some (.directory true)

/-- A directory in which no name can be looked up. -/
def isClosed (t : FileTree) (place : List String) : Bool :=
  t.node? place == some (.directory false)

def isDirectory (t : FileTree) (place : List String) : Bool :=
  t.isOpen place || t.isClosed place

/-- The longest name, in bytes. -/
def nameLimit : Nat := 255

/-- The longest path, in bytes. -/
def pathLimit : Nat := 4095

/-- The most links that are followed on one path. -/
def linkLimit : Nat := 40

/-- Where the target of a link is followed from: the root, or what the link is seen from. -/
def linkStart {α : Type} (root here : α) (target : String) : α :=
  if target.startsWith "/" then root else here

/-- Follows names from a place. Of a directory that cannot be searched not even the double dot is looked up.
When a link is met, `next` takes over with the place and the names that are left. -/
def walk (t : FileTree)
    (next : List String → List String → Except FileFault (List String × FileNode))
    (place : List String) : List String → Except FileFault (List String × FileNode)
  | [] =>
    match t.node? place with
    | some node => .ok (place, node)
    | none => .error .missing
  | name :: rest =>
    if name = "" then
      t.walk next place rest
    else if t.isClosed place then
      .error .permission
    else if name = "." then
      t.walk next place rest
    else if name = ".." then
      t.walk next place.dropLast rest
    else if nameLimit < name.utf8ByteSize then
      .error .nameTooLong
    else if !t.isOpen place then
      .error .missing
    else
      match t.node? (place ++ [name]) with
      | none => .error .missing
      | some (.directory _) => t.walk next (place ++ [name]) rest
      | some (.file content readable) =>
        if rest.isEmpty then .ok (place ++ [name], .file content readable) else .error .notDirectory
      | some (.link target) => next (linkStart [] place target) (Path.segments target ++ rest)

/-- Follows names from a place, with a limit on the links. -/
def locateFrom (t : FileTree) :
    Nat → List String → List String → Except FileFault (List String × FileNode)
  | 0 => t.walk fun _ _ => .error .linkLoop
  | links + 1 => t.walk (t.locateFrom links)

/-- The place and the node a path leads to. -/
def locate (t : FileTree) (directory : List String) (p : Path) :
    Except FileFault (List String × FileNode) :=
  if pathLimit < p.text.utf8ByteSize then .error .nameTooLong
  else t.locateFrom linkLimit (if p.isAbsolute then [] else directory) p.steps

/-- A text that no path may hold. -/
def hasNull (p : Path) : Bool :=
  p.names.any fun n => n.toList.contains '\x00'

/-- What a path leads to; where there is nothing, there need not be a failure. -/
def status? (t : FileTree) (directory : List String) (p : Path) : Except Failure (Option FileNode) :=
  if hasNull p then .ok none
  else
    match t.locate directory p with
    | .ok (_, node) => .ok (some node)
    | .error fault => if fault.isAbsence then .ok none else .error (.fileFault fault p.text)

/-- Whether a path leads to something. -/
def exists? (t : FileTree) (directory : List String) (p : Path) : Except Failure Bool := do
  return (← t.status? directory p).isSome

/-- Whether a path leads to a file. -/
def isFile (t : FileTree) (directory : List String) (p : Path) : Except Failure Bool := do
  match ← t.status? directory p with
  | some (.file ..) => return true
  | _ => return false

/-- The content of the file a path leads to. -/
def read (t : FileTree) (directory : List String) (p : Path) : Except Failure (List UInt8) :=
  if hasNull p then .error .embeddedNull
  else
    match t.locate directory p with
    | .ok (_, .file content true) => .ok content
    | .ok (_, .file _ false) => .error (.fileFault .permission p.text)
    | .ok _ => .error (.fileFault .isDirectory p.text)
    | .error fault => .error (.fileFault fault p.text)

/-! ## Paths without links -/

/-- A way that has been gone without links: down some names from a place, which is the root or a directory
above the current one. -/
@[ext]
structure Way where
  /-- It starts at the root, not in the current directory. -/
  absolute : Bool
  /-- On its way up it left a directory that cannot be searched, so nothing can be looked up on it. -/
  barred : Bool
  floor : List String
  below : List String
deriving DecidableEq, Repr

namespace Way

/-- The way that stays at the root. -/
def root : Way := ⟨true, false, [], []⟩

/-- Where a path is followed from. -/
def start (directory : List String) (p : Path) : Way :=
  if p.isAbsolute then root else ⟨false, false, directory, []⟩

/-- The place that a way leads to. -/
def place (w : Way) : List String := w.floor ++ w.below

/-- The way down one more name. -/
def enter (w : Way) (name : String) : Way := { w with below := w.below ++ [name] }

/-- The place as a text from the root. -/
def text (w : Way) : String := "/" ++ "/".intercalate w.place

end Way

/-- The way one name up. -/
def up (t : FileTree) (w : Way) : Way :=
  if w.below.isEmpty then
    { w with barred := w.barred || t.isClosed w.floor, floor := w.floor.dropLast }
  else { w with below := w.below.dropLast }

/-- Whether names lead through directories that can be searched, from a place to such a directory. -/
def passes (t : FileTree) (place : List String) : List String → Bool
  | [] => t.isOpen place
  | name :: names => t.isOpen place && t.passes (place ++ [name]) names

/-- Whether names can be looked up at the end of a way. -/
def isVisible (t : FileTree) (w : Way) : Bool :=
  !w.barred && t.passes w.floor w.below

/-- The target of the link that a name stands for. What cannot be looked up is taken for no link. -/
def linkAt? (t : FileTree) (w : Way) (name : String) : Option String :=
  match t.isVisible w, t.node? (w.place ++ [name]) with
  | true, some (.link target) => some target
  | _, _ => none

/-- A path written without links: the way it leads, or the text that remains where a link leads back to
itself. -/
inductive Unlinked where
  | all (way : Way)
  /-- `absolute` says whether the text needs no current directory. -/
  | stuck (absolute : Bool) (path : String)

/-- Writes what is left of a path behind the text in front of it. What begins with a slash, as after a
double slash, takes the place of that text. -/
def continued (absolute : Bool) (path : String) (rest : List String) : Unlinked :=
  let rest := "/".intercalate rest
  if rest.startsWith "/" then .stuck true rest else .stuck absolute (path ++ "/" ++ rest)

/-- Writes names without links and double dots, one after another. A link that is met while it is
being followed itself cannot be replaced; `follow` replaces the others. -/
def unlink (t : FileTree) (follow : List Way → Way → List String → Unlinked) (followed : List Way)
    (way : Way) : List String → Unlinked
  | [] => .all way
  | name :: rest =>
    if name = "." || name = "" then
      t.unlink follow followed way rest
    else if name = ".." then
      t.unlink follow followed (t.up way) rest
    else
      let here := way.enter name
      match t.linkAt? way name with
      | none => t.unlink follow followed here rest
      | some target =>
        if here ∈ followed then
          continued here.absolute here.text rest
        else
          match follow (here :: followed) (linkStart .root way target) (Path.segments target) with
          | .all way => t.unlink follow followed way rest
          | .stuck absolute path => continued absolute path rest

/-- Writes names without links, to a depth of links within links. -/
def unlinkFrom (t : FileTree) : Nat → List Way → Way → List String → Unlinked
  | 0 => t.unlink fun _ way names => continued way.absolute way.text names
  | depth + 1 => t.unlink (t.unlinkFrom depth)

/-- Links within links are never deeper: a link is met on a way from the root or from one of the directories
above the current one. -/
def depthLimit (t : FileTree) (directory : List String) : Nat :=
  (directory.length + 2) * t.nodes.length + 1

/-- A path from the root without links and double dots. Where links lead in a circle it is what the text that
remains says without looking at the files. A path that is seen from the current directory needs it to be
there. -/
def resolve (t : FileTree) (directory : List String) (p : Path) : Except Failure Path :=
  if hasNull p then .error .embeddedNull
  else
    match t.unlinkFrom (t.depthLimit directory) [] (.start directory p) p.names with
    | .all way =>
      if way.absolute || t.isDirectory directory then .ok ⟨"/", way.place⟩ else .error .noDirectory
    | .stuck absolute path =>
      let p := Path.ofString path
      if absolute || t.isDirectory directory then .ok ⟨p.root, Path.descend [] p.names⟩
      else .error .noDirectory

/-- Puts a node at a place, with the directories that lead there. -/
def insert (t : FileTree) (place : List String) (node : FileNode) : FileTree :=
  let missing := ((List.range place.length).map place.take).filter fun p => (t.node? p).isNone
  ⟨(t.nodes.filter fun e => e.1 != place) ++ missing.map (·, .directory) ++ [(place, node)]⟩

/-- Puts a node where a path leads; links on the way are followed. -/
def put (t : FileTree) (directory : List String) (p : Path) (node : FileNode) : FileTree :=
  match p.names.getLast? with
  | none => t
  | some name =>
    match t.resolve directory ⟨p.root, p.names.dropLast⟩ with
    | .ok parent => t.insert (parent.names ++ [name]) node
    | .error _ => t

/-- A tree with empty directories. -/
def withDirectories (places : List (List String)) : FileTree :=
  places.foldl (fun t place => t.insert place .directory) ⟨[]⟩

end FileTree

end ClusterPlan
