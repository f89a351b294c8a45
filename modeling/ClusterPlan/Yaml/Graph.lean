import ClusterPlan.Yaml.Tag
import ClusterPlan.Yaml.Token.Stream

/-!
# Nodes

A document is a graph of nodes: scalars, sequences of nodes, and mappings of nodes to nodes, each with its
tag. Nodes are numbered, and an alias is the number of the node it names, which may be one that the alias
is inside of. `Graph.ofTokens` builds the graph from the tokens, which may end early: nobody learns of that as
long as the tokens before decide how the building ends.
-/

namespace ClusterPlan.Yaml

/-- A node of a document; the nodes inside it are given by their numbers. -/
inductive Node where
  | scalar (tag : Tag) (text : String)
  | sequence (tag : Tag) (items : List Nat)
  | mapping (tag : Tag) (entries : List (Nat × Nat))
deriving DecidableEq, Repr

namespace Node

/-- The node that stands where nothing is written. -/
def empty : Node := .scalar .null ""

/-- The node that stands where a node is still being read. -/
def unread : Node := .scalar .unknown ""

instance : Inhabited Node := ⟨empty⟩

def tag : Node → Tag
  | scalar t _ => t
  | sequence t _ => t
  | mapping t _ => t

end Node

/-- The nodes of a document by their numbers. -/
structure Graph where
  nodes : Array Node
  /-- The number of the node that the document is. -/
  root : Nat
  /-- Whether a node may contain itself. -/
  hasLoops : Bool
deriving DecidableEq, Repr

namespace Graph

/-- What the nodes of a document are built from: the tokens that are left and why they end early, the nodes
that have been numbered, the numbers of those that have a name, whether one of them may contain itself, and the
handles of tags. -/
structure Source where
  tokens : List Token
  halt : Option Halt
  nodes : Array Node := #[]
  names : List (String × Nat) := []
  hasLoops : Bool := false
  handles : List (String × List UInt8) := []

/-- The steps of building a graph. -/
abbrev Builder := StateT Source (Except Fault)

def malformed {α : Type} : Builder α := throw .malformed

/-- The next token. It is the end of the document if nothing else is left. -/
def peek : Builder Token := do
  let s ← get
  match s.tokens, s.halt with
  | t :: _, _ => return t
  | [], none => return .streamEnd
  | [], some halt => throw halt.fault

def pass : Builder Unit := modify fun s => { s with tokens := s.tokens.drop 1 }

/-- Passes a token if it is the given one. -/
def passIf (t : Token) : Builder Bool := do
  if (← peek) = t then
    pass
    return true
  return false

/-! ## Tags and names of nodes -/

/-- The handles that every document knows. -/
def standardHandles : List (String × List UInt8) :=
  [("!", bytesOf ['!']), ("!!", bytesOf Tag.family.toList)]

/-- The name of the tag that leaves a node untagged. -/
def untagged : String := "!"

/-- A tag as it is written before a node. -/
inductive WrittenTag where
  | none
  /-- The tag that only says that a scalar is read as a plain one. -/
  | plain
  | named (name : String)

/-- What stands before a node: its anchor, and the handle and the suffix of its tag. -/
structure Properties where
  anchor : Option String := none
  tag : Option (String × List UInt8) := none

def readTag : Builder (Option (String × List UInt8)) := do
  match ← peek with
  | .tag handle suffix =>
    pass
    return some (handle, suffix)
  | _ => return none

def readAnchor : Builder (Option String) := do
  match ← peek with
  | .anchor name =>
    pass
    return some name
  | _ => return none

/-- The anchor and the tag before a node, in either order. -/
def readProperties : Builder Properties := do
  match ← readAnchor with
  | some name => return ⟨some name, ← readTag⟩
  | none =>
    match ← readTag with
    | some tag => return ⟨← readAnchor, some tag⟩
    | none => return {}

/-- The bytes of a tag. Its handle has to be known. -/
def tagBytes (tag : Option (String × List UInt8)) : Builder (Option (List UInt8)) := do
  match tag with
  | none => return none
  | some (handle, suffix) =>
    if handle = "" then
      return some suffix
    match (← get).handles.lookup handle with
    | some path => return some (path ++ suffix)
    | none => malformed

/-- The tag with some bytes. They have to be a text. -/
def decodeTag (bytes : Option (List UInt8)) : Builder WrittenTag := do
  match bytes with
  | none => return .none
  | some bytes =>
    match Text.decodeUtf8 bytes with
    | .ok name => return if String.ofList name = untagged then .plain else .named (.ofList name)
    | .error fault => throw (.impossible (.notUtf8 fault))

/-- Numbers a node. -/
def add (n : Node) : Builder Nat := do
  let number := (← get).nodes.size
  modify fun s => { s with nodes := s.nodes.push n }
  return number

/-- Numbers a node that is not known yet, and gives the number its name. A name is given once in a
document. -/
def reserve (anchor : Option String) : Builder Nat := do
  let number ← add .unread
  if let some name := anchor then
    if ((← get).names.lookup name).isSome then
      malformed
    modify fun s => { s with names := (name, number) :: s.names }
  return number

/-- Says what node has a number. -/
def define (number : Nat) (n : Node) : Builder Nat := do
  modify fun s => { s with nodes := s.nodes.setIfInBounds number n }
  return number

/-- The number of the node an alias names. Where that is still being read, it contains itself. -/
def named (name : String) : Builder Nat := do
  let s ← get
  match s.names.lookup name with
  | some number =>
    if s.nodes[number]? = some .unread then
      set { s with hasLoops := true }
    return number
  | none => malformed

def scalarTag (tag : WrittenTag) (text : String) (plain : Bool) : Tag :=
  match tag with
  | .named name => .ofName name
  | .plain => .ofPlain text
  | .none => if plain then .ofPlain text else .str

def collectionTag (tag : WrittenTag) (default : Tag) : Tag :=
  match tag with
  | .named name => .ofName name
  | _ => default

/-- The tag of a node of which only the anchor or the tag is written; the tag that leaves a node untagged
makes it a text. -/
def unwrittenTag? (anchor : Option String) (tag : WrittenTag) : Option Tag :=
  match anchor, tag with
  | none, .none => none
  | _, .plain => some .str
  | _, tag => some (scalarTag tag "" true)

/-! ## Nodes -/

mutual

/-- Builds a node. Block collections are possible outside of brackets; the entries of a sequence may
stand at the column of their key. -/
def read : (fuel : Nat) → (block sameColumn : Bool) → Builder Nat
  | 0, _, _ => malformed
  | fuel + 1, block, sameColumn => do
    if let .alias name ← peek then
      pass
      return ← named name
    let written ← readProperties
    -- The handle of the tag is looked up when the token behind is known, and the tag is decoded last.
    let next ← peek
    let bytes ← tagBytes written.tag
    let number ← reserve written.anchor
    let tag ← decodeTag bytes
    let sequence (items : Builder (List Nat)) : Builder Nat := do
      define number (.sequence (collectionTag tag .seq) (← items))
    let mapping (entries : Builder (List (Nat × Nat))) : Builder Nat := do
      define number (.mapping (collectionTag tag .map) (← entries))
    let unwritten : Builder Nat :=
      match unwrittenTag? written.anchor tag with
      | none => malformed
      | some tag => define number (.scalar tag "")
    match next with
    | .blockEntry => if sameColumn then sequence (sameColumnItems fuel) else unwritten
    | .scalar text plain =>
      pass
      define number (.scalar (scalarTag tag text plain) text)
    | .flowSequenceStart =>
      pass
      sequence (flowItems fuel true)
    | .flowMappingStart =>
      pass
      mapping (flowEntries fuel true)
    | .blockSequenceStart =>
      if block then
        pass
        sequence (blockItems fuel)
      else
        unwritten
    | .blockMappingStart =>
      if block then
        pass
        mapping (blockEntries fuel)
      else
        unwritten
    | _ => unwritten

/-- Builds a node unless one of the given tokens comes first. -/
def readUnless : (fuel : Nat) → (block sameColumn : Bool) → (stops : List Token) → Builder Nat
  | 0, _, _, _ => malformed
  | fuel + 1, block, sameColumn, stops => do
    if (← peek) ∈ stops then
      return ← add .empty
    read fuel block sameColumn

/-- The items of a block sequence. -/
def blockItems : (fuel : Nat) → Builder (List Nat)
  | 0 => malformed
  | fuel + 1 => do
    if ← passIf .blockEntry then
      let item ← readUnless fuel true false [.blockEntry, .blockEnd]
      return item :: (← blockItems fuel)
    if ← passIf .blockEnd then
      return []
    malformed

/-- The items of a sequence at the column of its key. -/
def sameColumnItems : (fuel : Nat) → Builder (List Nat)
  | 0 => malformed
  | fuel + 1 => do
    if ← passIf .blockEntry then
      let item ← readUnless fuel true false [.blockEntry, .key, .value, .blockEnd]
      return item :: (← sameColumnItems fuel)
    return []

/-- The entries of a block mapping. -/
def blockEntries : (fuel : Nat) → Builder (List (Nat × Nat))
  | 0 => malformed
  | fuel + 1 => do
    let stops := [Token.key, .value, .blockEnd]
    if ← passIf .blockEnd then
      return []
    let key ← match ← peek with
      | .key => do pass; readUnless fuel true true stops
      | _ => malformed
    let value ← if ← passIf .value then readUnless fuel true true stops else add .empty
    return (key, value) :: (← blockEntries fuel)

/-- The items of a sequence in brackets. -/
def flowItems : (fuel : Nat) → (first : Bool) → Builder (List Nat)
  | 0, _ => malformed
  | fuel + 1, first => do
    if ← passIf .flowSequenceEnd then
      return []
    if !first then
      if !(← passIf .flowEntry) then
        malformed
      if ← passIf .flowSequenceEnd then
        return []
    if ← passIf .key then
      let entry ← flowPair fuel
      let item ← add (.mapping .map [entry])
      return item :: (← flowItems fuel false)
    let item ← read fuel false false
    return item :: (← flowItems fuel false)

/-- A single entry that is an item of a sequence in brackets. Where its key is missing, one token is
lost. -/
def flowPair : (fuel : Nat) → Builder (Nat × Nat)
  | 0 => malformed
  | fuel + 1 => do
    let stops := [Token.value, .flowEntry, .flowSequenceEnd]
    let key ← if (← peek) ∈ stops then do pass; add .empty
      else readUnless fuel false false stops
    let value ← if ← passIf .value then
        readUnless fuel false false [.flowEntry, .flowSequenceEnd]
      else add .empty
    return (key, value)

/-- The entries of a mapping in brackets. -/
def flowEntries : (fuel : Nat) → (first : Bool) → Builder (List (Nat × Nat))
  | 0, _ => malformed
  | fuel + 1, first => do
    if ← passIf .flowMappingEnd then
      return []
    if !first then
      if !(← passIf .flowEntry) then
        malformed
      if ← passIf .flowMappingEnd then
        return []
    if ← passIf .key then
      let key ← readUnless fuel false false [.value, .flowEntry, .flowMappingEnd]
      let value ← if ← passIf .value then
          readUnless fuel false false [.flowEntry, .flowMappingEnd]
        else add .empty
      return (key, value) :: (← flowEntries fuel false)
    let key ← read fuel false false
    let value ← add .empty
    return (key, value) :: (← flowEntries fuel false)

end

/-! ## Documents -/

/-- Reads the directives before a document: at most one version, which must be known, and handles that
differ. -/
def readDirectives : (fuel : Nat) → (version : Bool) → Builder Unit
  | 0, _ => malformed
  | fuel + 1, version => do
    match ← peek with
    | .version major minor =>
      if version || major != 1 || (minor != 1 && minor != 2) then
        malformed
      pass
      readDirectives fuel true
    | .tagDirective handle path =>
      if ((← get).handles.lookup handle).isSome then
        malformed
      pass
      modify fun s => { s with handles := (handle, path) :: s.handles }
      readDirectives fuel version
    | _ => modify fun s => { s with handles := s.handles ++ standardHandles }

/-- Reads the content of a document that begins with a mark. -/
def readContent (fuel : Nat) : Builder Nat := do
  match ← peek with
  | .version .. | .tagDirective .. | .documentStart | .documentEnd | .streamEnd => add .empty
  | _ => read fuel true false

/-- Passes the marks at the end of a document. -/
def passEnds : (fuel : Nat) → Builder Unit
  | 0 => malformed
  | fuel + 1 => do
    if ← passIf .documentEnd then
      passEnds fuel

/-- Passes the end of the only document. The directives of another one are read, which forgets the handles,
before it is refused. -/
def passEnd (fuel : Nat) : Builder Unit := do
  if ← passIf .documentEnd then
    passEnds fuel
  if (← peek) != .streamEnd then
    modify fun s => { s with handles := [] }
    readDirectives fuel false
    malformed

/-- Reads the only document; `none` if there is none. -/
def readDocument (fuel : Nat) : Builder (Option Nat) := do
  if (← peek) = .streamEnd then
    return none
  let explicit := match ← peek with
    | .version .. | .tagDirective .. | .documentStart => true
    | _ => false
  readDirectives fuel false
  let n ← if explicit then
      if !(← passIf .documentStart) then
        malformed
      readContent fuel
    else
      read fuel true false
  passEnd fuel
  return some n

/-- The graph of a document, or `none` if there is no document. Every token takes part in a bounded number
of calls. -/
def ofTokens (tokens : List Token) (halt : Option Halt) : Result (Option Graph) := do
  let (root, source) ← readDocument (4 * tokens.length + 8) { tokens, halt }
  return root.map fun root => ⟨source.nodes, root, source.hasLoops⟩

end Graph

end ClusterPlan.Yaml
