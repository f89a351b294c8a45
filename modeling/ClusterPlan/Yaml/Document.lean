import ClusterPlan.Value.Order
import ClusterPlan.Yaml.Merge
import ClusterPlan.Yaml.Scalar

/-!
# Values of documents

`Yaml.read` gives the value of a document. The nodes are checked from the outside to the inside, those at
one depth in the order in which they stand, and the first fault counts; on the way merge keys are
replaced. Of a collection that contains itself the value knows nothing but the texts.
-/

namespace ClusterPlan.Yaml

/-- Whether the nodes of a tag are collections, which cannot be keys. -/
def Tag.isCollection : Tag → Bool
  | seq | map | set | omap | pairs => true
  | _ => false

/-! ## Checking -/

/-- The nodes on the way, and the collections that have been met and are still to be looked into. -/
structure Checker where
  nodes : Array Node
  met : Array Bool
  waiting : List Nat := []

/-- The steps of checking a document. -/
abbrev Check := StateT Checker (Except Fault)

namespace Check

/-- The text of a node that is to be a scalar: its own, or that of the value key of a mapping. The fuel
is more than the number of nodes. -/
def scalarText? (nodes : Array Node) : (fuel number : Nat) → Option String
  | 0, _ => none
  | fuel + 1, number =>
    match nodes[number]?.getD .empty with
    | .scalar _ text => some text
    | .sequence .. => none
    | .mapping _ entries =>
      match entries.find? fun (key, _) => (nodes[key]?.getD .empty).tag = .value with
      | some (_, value) => scalarText? nodes fuel value
      | none => none

/-- The value of a node whose tag is that of a scalar. -/
def scalarValue (nodes : Array Node) (number : Nat) : Result Value :=
  match scalarText? nodes (nodes.size + 1) number with
  | some text => Scalar.value (nodes[number]?.getD .empty).tag text
  | none => .error .malformed

/-- Meets a node: a scalar is read, and a collection waits for its turn. -/
def meet (number : Nat) : Check Unit := do
  let s ← get
  if (s.nodes[number]?.getD .empty).tag.isCollection then
    unless s.met[number]?.getD true do
      set { s with met := s.met.setIfInBounds number true, waiting := number :: s.waiting }
  else
    discard (scalarValue s.nodes number)

/-- Meets the key and the value of an entry. -/
def meetEntry (entry : Nat × Nat) : Check Unit := do
  meet entry.1
  if ((← get).nodes[entry.1]?.getD .empty).tag.isCollection then
    throw .malformed
  meet entry.2

/-- Looks into a mapping, whose merge keys are replaced first. -/
def checkMapping (number : Nat) : Check Unit := do
  let s ← get
  match s.nodes[number]?.getD .empty with
  | .mapping .. =>
    match (do Editor.resolveMerges (s.nodes.size + 1) number; Editor.entries number).run s.nodes with
    | none => throw .malformed
    | some (entries, nodes) =>
      set { s with nodes }
      entries.forM meetEntry
  | _ => throw .malformed

/-- Looks into an item of a list of pairs: a mapping with a single entry. -/
def checkPair (number : Nat) : Check Unit := do
  match (← get).nodes[number]?.getD .empty with
  | .mapping _ [(key, value)] =>
    meet key
    meet value
  | _ => throw .malformed

/-- Looks into a collection. -/
def look (number : Nat) : Check Unit := do
  let n := (← get).nodes[number]?.getD .empty
  match n.tag, n with
  | .map, _ | .set, _ => checkMapping number
  | .seq, .sequence _ items => items.forM meet
  | .omap, .sequence _ items | .pairs, .sequence _ items => items.forM checkPair
  | _, _ => throw .malformed

/-- Looks into the collections that have been met, and then into those met thereby. Each node is looked
into at most once, so the number of nodes is fuel enough. -/
def lookInside : (fuel : Nat) → Check Unit
  | 0 => return
  | fuel + 1 => do
    let numbers := (← get).waiting.reverse
    unless numbers.isEmpty do
      modify fun s => { s with waiting := [] }
      numbers.forM look
      lookInside fuel

end Check

/-- The document with its merge keys replaced, if it has no fault. -/
def Graph.checked (g : Graph) : Result Graph := do
  let start : Checker := { nodes := g.nodes, met := g.nodes.map fun _ => false }
  let ((), s) ← (do Check.meet g.root; Check.lookInside (g.nodes.size + 1)).run start
  return { g with nodes := s.nodes }

/-! ## Values -/

namespace Graph

/-- The node with a number. -/
def node (g : Graph) (number : Nat) : Node :=
  g.nodes[number]?.getD .empty

/-- The value of a scalar of a document without faults. -/
def scalar (g : Graph) (number : Nat) : Value :=
  match Check.scalarValue g.nodes number with
  | .ok v => v
  | .error _ => .null

/-- Whether a node is the one value of the document that is not a number. -/
def isSharedNan (g : Graph) (number : Nat) : Bool :=
  match g.node number with
  | .scalar _ text => Scalar.isSharedNan text
  | _ => false

/-- A key of a mapping: the node and its value. -/
structure Key where
  number : Nat
  value : Value

/-- Whether two keys are one: they have equal values, or what is not a number is the same node or the one
value of the document that is not a number. -/
def isSameKey (g : Graph) (a b : Key) : Bool :=
  match a.value, b.value with
  | .float .nan, .float .nan =>
    a.number == b.number || (g.isSharedNan a.number && g.isSharedNan b.number)
  | v, w => v.same w

/-- Puts an entry among entries: the value in place of that of an equal key, which stays as it is, or else
at the end. -/
def putEntry (g : Graph) (key : Key) (value : Nat) : List (Key × Nat) → List (Key × Nat)
  | [] => [(key, value)]
  | (k, v) :: es => if g.isSameKey k key then (k, value) :: es else (k, v) :: g.putEntry key value es

/-- What is inside a node. -/
inductive Shape where
  | scalar (v : Value)
  | list (items : List Nat)
  | pairs (items : List (Nat × Nat))
  | set (items : List Nat)
  | mapping (entries : List (Nat × Nat))

/-- The entries of a node, each key once. -/
def distinctEntries (g : Graph) (entries : List (Nat × Nat)) : List (Nat × Nat) :=
  (entries.foldl (fun es (k, v) => g.putEntry ⟨k, g.scalar k⟩ v es) []).map
    fun (k, v) => (k.number, v)

/-- The entry of a mapping with a single entry. -/
def singleEntry? (g : Graph) (number : Nat) : Option (Nat × Nat) :=
  match g.node number with
  | .mapping _ [entry] => some entry
  | _ => none

/-- What is inside the node with a number. -/
def shape (g : Graph) (number : Nat) : Shape :=
  let n := g.node number
  match n.tag, n with
  | .seq, .sequence _ items => .list items
  | .omap, .sequence _ items | .pairs, .sequence _ items => .pairs (items.filterMap g.singleEntry?)
  | .set, .mapping _ entries =>
    .set (Value.orderSet g.scalar ((g.distinctEntries entries).map Prod.fst))
  | .map, .mapping _ entries => .mapping (g.distinctEntries entries)
  | _, _ => .scalar (g.scalar number)

/-- The nodes directly inside a node. -/
def inside (g : Graph) (number : Nat) : List Nat :=
  match g.shape number with
  | .scalar _ => []
  | .list items => items
  | .pairs items => items.flatMap fun (k, v) => [k, v]
  | .set items => items
  | .mapping entries => entries.map Prod.snd

/-- The nodes that can be reached from some nodes through those that have not been reached before. The
number of nodes is fuel enough. -/
def reachable (g : Graph) : (fuel : Nat) → (reached : List Nat) → List Nat → List Nat
  | 0, reached, _ => reached
  | fuel + 1, reached, numbers =>
    match (numbers.filter (!reached.contains ·)).eraseDups with
    | [] => reached
    | new => g.reachable fuel (new ++ reached) (new.flatMap g.inside)

/-- Whether a node contains itself. -/
def isKnot (g : Graph) (number : Nat) : Bool :=
  g.hasLoops && (g.reachable (g.nodes.size + 1) [] (g.inside number)).contains number

/-- The quoted text of a node; a collection inside of which the text is written is shown by dots. The
fuel is more than the number of nodes. -/
def quoted (g : Graph) : (fuel : Nat) → (around : List Nat) → (number : Nat) → Except Failure String
  | 0, _, _ => .ok ""
  | fuel + 1, around, number =>
    let inner := g.quoted fuel (number :: around)
    let pair (k v : Nat) (between : String) : Except Failure String := do
      return (← inner k) ++ between ++ (← inner v)
    let joined (texts : List String) : String := ", ".intercalate texts
    let isAround := around.contains number
    match g.shape number with
    | .scalar v => v.quoted
    | .list items =>
      if isAround then .ok "[...]" else do return "[" ++ joined (← items.mapM inner) ++ "]"
    | .pairs items =>
      if isAround then .ok "[...]"
      else do
        return "[" ++ joined (← items.mapM fun (k, v) =>
          (fun s => "(" ++ s ++ ")") <$> pair k v ", ") ++ "]"
    | .set items =>
      if items.isEmpty then .ok "set()"
      else do return "\x7b" ++ joined (← items.mapM inner) ++ "\x7d"
    | .mapping entries =>
      if isAround then .ok "\x7b...\x7d"
      else do
        return "\x7b" ++ joined (← entries.mapM fun (k, v) => pair k v ": ") ++ "\x7d"

/-- The quoted text of a node on its own. -/
def quotedText (g : Graph) (number : Nat) : Except Failure String :=
  g.quoted (g.nodes.size + 2) [] number

/-- The value of a node of which only the text is known unless it is a scalar. -/
def opaqueValue (g : Graph) (number : Nat) : Value :=
  match g.shape number with
  | .scalar v => v
  | _ => .knot false (g.quotedText number) []

/-- Whether something that contains itself is in a node. -/
def hasKnot (g : Graph) (number : Nat) : Bool :=
  g.hasLoops && (g.reachable (g.nodes.size + 1) [] [number]).any g.isKnot

/-- The value of a node that contains itself. Of a list the items are known, by their texts if they go in
circles in turn and else by their values, which `inner` gives. -/
def knot (g : Graph) (inner : Nat → Value) (number : Nat) : Value :=
  match g.shape number with
  | .list items =>
    .knot true (g.quotedText number)
      (items.map fun n => if g.hasKnot n then g.opaqueValue n else inner n)
  | .pairs items =>
    .knot true (g.quotedText number) (items.map fun (k, v) =>
      if g.hasKnot k || g.hasKnot v then
        .knot false (do return "(" ++ (← g.quotedText k) ++ ", " ++ (← g.quotedText v) ++ ")") []
      else
        .tuple [inner k, inner v])
  | _ => g.opaqueValue number

/-- The value of a node. The fuel is more than the number of nodes. -/
def value (g : Graph) : (fuel number : Nat) → Value
  | 0, _ => .null
  | fuel + 1, number =>
    let inner := g.value fuel
    match g.shape number with
    | .scalar v => v
    | shape =>
      if g.isKnot number then g.knot inner number
      else
        match shape with
        | .scalar v => v
        | .list items => .list (items.map inner)
        | .pairs items => .list (items.map fun (k, v) => .tuple [inner k, inner v])
        | .set items => .set (items.map inner)
        | .mapping entries => .mapping (entries.map fun (k, v) => (inner k, inner v))

/-- The value of a node that is read entry by entry: of a mapping that contains itself the entries are
known as well, unless it is inside of them again. -/
def openValue (g : Graph) : (fuel : Nat) → (around : List Nat) → (number : Nat) → Value
  | 0, _, _ => .null
  | fuel + 1, around, number =>
    match g.shape number with
    | .mapping entries =>
      if around.contains number then g.opaqueValue number
      else
        .mapping (entries.map fun (k, v) => (g.scalar k, g.openValue fuel (number :: around) v))
    | _ => g.value (g.nodes.size + 1) number

/-- The value of a document without faults. -/
def rootValue (g : Graph) : Value :=
  g.openValue (g.nodes.size + 2) [] g.root

end Graph

/-- The value of a document; a document without content is the missing value. -/
def read (s : Stream) : Result Value := do
  let (tokens, halt) := Token.scan s
  match ← Graph.ofTokens tokens halt with
  | none => return .null
  | some g => return (← g.checked).rootValue

end ClusterPlan.Yaml
