import ClusterPlan.Yaml.Token.Name

/-!
# The tokens of a document

`Token.scan` cuts a document into tokens. It keeps the indentation of the open block collections and,
for every open bracket, the place where a key may have begun: only the colon after a key tells that it
was one, and the tokens that open a mapping are then put in front of it. A key that is not in brackets
ends on its line and within 1024 characters. Where the scan fails, the tokens before remain, up to a place
where a key may have begun.
-/

namespace ClusterPlan.Yaml

/-- A place where a key may have begun. -/
structure KeyStart where
  /-- The number of tokens before the key. -/
  position : Nat
  index : Nat
  line : Nat
  column : Nat
  /-- Whether nothing but a key can stand at this place. -/
  required : Bool

/-- The state of a scan. -/
structure Scan where
  cursor : Cursor
  tokens : Array Token := #[]
  /-- The column of the innermost block collection, or -1. -/
  indent : Int := -1
  /-- The columns of the block collections around it. -/
  outer : List Int := []
  /-- Where a key may have begun, for the innermost bracket. -/
  keyStart : Option KeyStart := none
  /-- The same for the brackets around it. -/
  outerKeys : List (Option KeyStart) := []
  /-- Whether a key may begin here. -/
  keyAllowed : Bool := true

namespace Scan

/-- Whether the cursor is inside brackets. -/
def inFlow (s : Scan) : Bool := !s.outerKeys.isEmpty

def push (s : Scan) (t : Token) : Scan := { s with tokens := s.tokens.push t }

def move (s : Scan) (c : Cursor) : Scan := { s with cursor := c }

/-- Passes spaces, comments and line breaks. Tabs count as spaces where no key can begin. -/
def skipToToken : (fuel : Nat) → Scan → Scanned Scan
  | 0, s => return s
  | fuel + 1, s => do
    s.cursor.need 1
    let c := if s.cursor.column = 0 && s.cursor.sees '\ufeff' then s.cursor.skip 1 else s.cursor
    let tabs := s.inFlow || !s.keyAllowed
    let c ← (← c.skipWhile fun x => x = ' ' || (tabs && x = '\t')).skipComment
    if c.peek?.any isBreak then
      skipToToken fuel
        { s with cursor := (← c.passBreak), keyAllowed := s.keyAllowed || !s.inFlow }
    else
      return s.move c

/-- The longest key, in characters. -/
def keyLimit : Nat := 1024

/-- Forgets that a key may have begun; a place that only a key can take is malformed without one. -/
def dropKey (s : Scan) : Scanned Scan :=
  if s.keyStart.any (·.required) then malformed else return { s with keyStart := none }

/-- Whether a key that began at a place can no longer end. -/
def isStale (c : Cursor) (k : KeyStart) : Bool :=
  k.line < c.line || k.index + keyLimit < c.index

/-- Forgets the places where a key may have begun and can no longer end. -/
def dropStaleKeys (s : Scan) : Scanned Scan :=
  let stale (k : Option KeyStart) : Bool := k.any (isStale s.cursor)
  let all := s.keyStart :: s.outerKeys
  if all.any fun k => stale k && k.any (·.required) then malformed
  else
    let fresh (k : Option KeyStart) : Option KeyStart := if stale k then none else k
    return { s with keyStart := fresh s.keyStart, outerKeys := s.outerKeys.map fresh }

/-- Closes the block collections to the right of a column. -/
def unroll (column : Int) : List Int → Scan → Scan
  | [], s => s
  | indent :: outer, s =>
    if column < s.indent then unroll column outer { s.push .blockEnd with indent, outer } else s

/-- Closes the block collections to the right of a column; brackets keep them open. -/
def unrollTo (s : Scan) (column : Int) : Scan :=
  if s.inFlow then s else unroll column s.outer s

/-- Opens a block collection at a column to the right of the innermost one, with its token at the given
position. -/
def rollTo (s : Scan) (column : Nat) (position : Nat) (t : Token) : Scan :=
  if s.inFlow || (column : Int) ≤ s.indent then s
  else
    { s with
      tokens := s.tokens.insertIdxIfInBounds position t
      indent := column
      outer := s.indent :: s.outer }

/-- Remembers that a key may begin here. -/
def saveKey (s : Scan) : Scanned Scan := do
  if !s.keyAllowed then
    return s
  let s ← s.dropKey
  let c := s.cursor
  let required := !s.inFlow && s.indent = c.column
  return { s with keyStart := some ⟨s.tokens.size, c.index, c.line, c.column, required⟩ }

/-- Ends the block collections for a mark in the first column. -/
def closeBlocks (s : Scan) : Scanned Scan := do
  let s ← (s.unrollTo (-1)).dropKey
  return { s with keyAllowed := false }

def openFlow (s : Scan) (t : Token) : Scanned Scan := do
  let s ← s.saveKey
  return { s.push t with
    cursor := s.cursor.skip 1
    keyStart := none
    outerKeys := s.keyStart :: s.outerKeys
    keyAllowed := true }

def closeFlow (s : Scan) (t : Token) : Scanned Scan := do
  let s ← s.dropKey
  let s := match s.outerKeys with
    | [] => s
    | k :: ks => { s with keyStart := k, outerKeys := ks }
  return { s.push t with cursor := s.cursor.skip 1, keyAllowed := false }

def flowEntry (s : Scan) : Scanned Scan := do
  let s ← s.dropKey
  return { s.push .flowEntry with cursor := s.cursor.skip 1, keyAllowed := true }

def blockEntry (s : Scan) : Scanned Scan := do
  if !s.inFlow && !s.keyAllowed then
    malformed
  let s ← (s.rollTo s.cursor.column s.tokens.size .blockSequenceStart).dropKey
  return { s.push .blockEntry with cursor := s.cursor.skip 1, keyAllowed := true }

def explicitKey (s : Scan) : Scanned Scan := do
  if !s.inFlow && !s.keyAllowed then
    malformed
  let s ← (s.rollTo s.cursor.column s.tokens.size .blockMappingStart).dropKey
  return { s.push .key with cursor := s.cursor.skip 1, keyAllowed := !s.inFlow }

/-- The colon: what began at the key start was a key, or else the value of an explicit key begins. -/
def value (s : Scan) : Scanned Scan :=
  match s.keyStart with
  | some k =>
    let s := { s with tokens := s.tokens.insertIdxIfInBounds k.position .key }
    let s := s.rollTo k.column k.position .blockMappingStart
    return { s.push .value with cursor := s.cursor.skip 1, keyStart := none, keyAllowed := false }
  | none => do
    if !s.inFlow && !s.keyAllowed then
      malformed
    let s := s.rollTo s.cursor.column s.tokens.size .blockMappingStart
    return { s.push .value with cursor := s.cursor.skip 1, keyAllowed := !s.inFlow }

/-- A token that may be the beginning of a key. -/
def node (s : Scan) (read : Cursor → Scanned (Token × Cursor)) : Scanned Scan := do
  let s ← s.saveKey
  let (t, c) ← read s.cursor
  return { s.push t with cursor := c, keyAllowed := false }

/-- A token with a name. -/
def named (token : String → Token) (c : Cursor) : Scanned (Token × Cursor) := do
  let (name, c) ← readName c
  return (token name, c)

def quoted (s : Scan) (double : Bool) : Scanned Scan :=
  s.node fun c => do
    let (text, c) ← readQuoted double (c.rest.length + 1) [] (c.skip 1)
    return (.scalar (.ofList text) false, c)

def block (s : Scan) (literal : Bool) : Scanned Scan := do
  let s ← s.dropKey
  let (text, c) ← readBlock literal s.indent (s.cursor.skip 1)
  return { s.push (.scalar (.ofList text) false) with cursor := c, keyAllowed := true }

/-- A plain scalar; a key may begin on the next line if it ends with a line break. -/
def plain (s : Scan) : Scanned Scan := do
  let s ← s.saveKey
  let (text, broken, c) ←
    readPlain s.inFlow (s.indent + 1) (s.cursor.rest.length + 1) [] {} s.cursor
  return { s.push (.scalar (.ofList text) true) with cursor := c, keyAllowed := broken }

/-- The characters that no plain scalar begins with. -/
def indicators : List Char :=
  ['-', '?', ':', ',', '[', ']', '\x7b', '\x7d', '#', '&', '*', '!', '|', '>', '\'', '"', '%', '@',
    '`']

/-- Whether a plain scalar begins here. -/
def startsPlain (s : Scan) (x : Char) : Bool :=
  let c := s.cursor
  (!isGap x && !indicators.contains x)
    || (x = '-' && !(c.peekAt? 1).any isSpace)
    || (!s.inFlow && (x = '?' || x = ':') && !c.endsAt 1 isGap)

/-- Reads one token, with those that have to be put in front of it. -/
def next (s : Scan) (x : Char) : Scanned Scan :=
  let c := s.cursor
  let spaced := c.endsAt 1 isGap
  if c.column = 0 && x = '%' then do
    let s ← s.closeBlocks
    let (t, c) ← readDirective s.cursor
    return { s.push t with cursor := c }
  else if c.seesMark '-' then do
    let s ← s.closeBlocks
    return (s.push .documentStart).move (s.cursor.skip 3)
  else if c.seesMark '.' then do
    let s ← s.closeBlocks
    return (s.push .documentEnd).move (s.cursor.skip 3)
  else if x = '[' then s.openFlow .flowSequenceStart
  else if x = '\x7b' then s.openFlow .flowMappingStart
  else if x = ']' then s.closeFlow .flowSequenceEnd
  else if x = '\x7d' then s.closeFlow .flowMappingEnd
  else if x = ',' then s.flowEntry
  else if x = '-' && spaced then s.blockEntry
  else if x = '?' && (s.inFlow || spaced) then s.explicitKey
  else if x = ':' && (s.inFlow || spaced) then s.value
  else if x = '*' then s.node (named .alias)
  else if x = '&' then s.node (named .anchor)
  else if x = '!' then s.node (readTag s.inFlow)
  else if x = '|' && !s.inFlow then s.block true
  else if x = '>' && !s.inFlow then s.block false
  else if x = '\'' then s.quoted false
  else if x = '"' then s.quoted true
  else if s.startsPlain x then s.plain
  else malformed

/-- The end of the document closes all block collections. -/
def finish (s : Scan) : Scanned Scan := do
  let s ← (s.unrollTo (-1)).dropKey
  return (s.push .streamEnd).move s.cursor.endLine

/-- Passes to the next token and reads it, with those that have to be put in front of it. The result tells
whether it is the last one. -/
def advance (s : Scan) : Scanned (Scan × Bool) := do
  let s ← (← skipToToken (s.cursor.rest.length + 1) s).dropStaleKeys
  let s := s.unrollTo s.cursor.column
  s.cursor.need 4
  match s.cursor.peek? with
  | none => return (← (← s.finish).dropStaleKeys, true)
  | some x => return (← (← s.next x).dropStaleKeys, false)

/-- The tokens in front of which no other can be put. -/
def settled (s : Scan) : List Token :=
  let starts := (s.keyStart :: s.outerKeys).filterMap (·.map KeyStart.position)
  match starts.min? with
  | some position => s.tokens.toList.take position
  | none => s.tokens.toList

/-- Reads tokens up to the end of the document, or to the place where that fails. The fuel is the number of
characters and one more. -/
def run : (fuel : Nat) → Scan → List Token × Option Halt
  | 0, s => (s.settled, some .malformed)
  | fuel + 1, s =>
    match s.advance with
    | .ok (s, last) => if last then (s.tokens.toList, none) else run fuel s
    | .error halt => (s.settled, some halt)

end Scan

/-- The tokens of a document, and why they end if they are not all. -/
def Token.scan (s : Stream) : List Token × Option Halt :=
  Scan.run (s.chars.length + 1) { cursor := ⟨s.chars, s.ending != .complete, 0, 0, 0⟩ }

end ClusterPlan.Yaml
