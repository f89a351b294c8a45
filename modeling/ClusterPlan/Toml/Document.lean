import ClusterPlan.Toml.Scalar
import ClusterPlan.Toml.Table

/-!
# Settings files

`Toml.read?` reads a settings file: headers, and keys with values below them. It gives the entries of
the outermost table, or `none` if the file is malformed.
-/

namespace ClusterPlan.Toml

/-- Passes a comment. -/
def comment? : List Char → Option (List Char)
  | '#' :: cs =>
    let text := cs.takeWhile (· != '\n')
    if text.any isControl then none else some (cs.drop text.length)
  | cs => some cs

/-- Passes white space, line feeds and comments. The fuel is the number of characters. -/
def skipFiller? : (fuel : Nat) → List Char → Option (List Char)
  | 0, cs => some cs
  | fuel + 1, cs => do
    let rest ← comment? (skipLines cs)
    if rest.length = cs.length then some cs else skipFiller? fuel rest

/-- A character of a key without quotes. -/
def isKeyChar (c : Char) : Bool :=
  c.isAlphanum || c = '-' || c = '_'

/-- One part of a key. -/
def keyPart : Read String := fun cs =>
  match cs with
  | [] => none
  | c :: _ =>
    if isKeyChar c then
      let part := cs.takeWhile isKeyChar
      some (.ofList part, cs.drop part.length)
    else
      (lineText cs).map fun (text, rest) => (.ofList text, rest)

/-- A key: parts with dots between them. The fuel is the number of characters. -/
def key : (fuel : Nat) → Read (List String)
  | 0, _ => none
  | fuel + 1, cs => do
    let (part, cs) ← keyPart cs
    match skipSpaces cs with
    | '.' :: cs =>
      let (parts, cs) ← key fuel (skipSpaces cs)
      return (part :: parts, cs)
    | cs => return ([part], cs)

mutual

/-- A value. The fuel bounds how deep values are nested and how long collections are. -/
def value : (fuel : Nat) → Read Value
  | 0, _ => none
  | fuel + 1, cs =>
    match cs with
    | '"' :: _ => (text cs).map fun (t, cs) => (.str (.ofList t), cs)
    | '\'' :: _ => (text cs).map fun (t, cs) => (.str (.ofList t), cs)
    | '[' :: cs => do
      let cs ← skipFiller? (cs.length + 1) cs
      if cs.head? = some ']' then
        return (.list [], cs.drop 1)
      let (vs, cs) ← items fuel cs
      return (.list vs, cs)
    | '\x7b' :: cs => do
      let cs := skipSpaces cs
      if cs.head? = some '\x7d' then
        return (.mapping [], cs.drop 1)
      let (es, cs) ← pairs fuel [] cs
      return (.mapping (valuesOf es), cs)
    | cs => bare cs

/-- The items of a list, up to and including the closing bracket. -/
def items : (fuel : Nat) → Read (List Value)
  | 0, _ => none
  | fuel + 1, cs => do
    let (v, cs) ← value fuel cs
    match ← skipFiller? (cs.length + 1) cs with
    | ']' :: cs => return ([v], cs)
    | ',' :: cs =>
      let cs ← skipFiller? (cs.length + 1) cs
      if cs.head? = some ']' then
        return ([v], cs.drop 1)
      let (vs, cs) ← items fuel cs
      return (v :: vs, cs)
    | _ => none

/-- The pairs of a table on one line, up to and including the closing brace. -/
def pairs : (fuel : Nat) → Entries → Read Entries
  | 0, _, _ => none
  | fuel + 1, es, cs => do
    let (path, v, cs) ← pair fuel cs
    let es ← putValue 0 v path es
    match skipSpaces cs with
    | '\x7d' :: cs => return (es, cs)
    | ',' :: cs => pairs fuel es (skipSpaces cs)
    | _ => none

/-- A key with its value. -/
def pair : (fuel : Nat) → List Char → Option (List String × Value × List Char)
  | 0, _ => none
  | fuel + 1, cs => do
    let (path, cs) ← key (cs.length + 1) cs
    let (v, cs) ← value fuel (skipSpaces (← pass '=' cs))
    return (path, v, cs)

end

/-- A file as far as it is read: the tables, the header in force, and the number of headers so far. -/
structure Progress where
  entries : Entries := []
  header : List String := []
  section_ : Nat := 0

/-- The last part of a path and those before it. -/
def splitLast : List String → Option (List String × String)
  | [] => none
  | [k] => some ([], k)
  | k :: ks => (splitLast ks).map fun (path, last) => (k :: path, last)

/-- Reads a header behind its first bracket. -/
def header (p : Progress) (cs : List Char) : Option (Progress × List Char) := do
  let current := p.section_ + 1
  match cs with
  | '[' :: cs =>
    let cs := skipSpaces cs
    let (parts, cs) ← key (cs.length + 1) cs
    let (path, last) ← splitLast parts
    let es ← appendTable path last p.entries
    if startsWith "]]" cs then some (⟨es, parts, current⟩, cs.drop 2) else none
  | cs =>
    let cs := skipSpaces cs
    let (parts, cs) ← key (cs.length + 1) cs
    let (path, last) ← splitLast parts
    let es ← declareTable current path last p.entries
    return (⟨es, parts, current⟩, ← pass ']' cs)

/-- Reads what a line begins with: a header, a key with its value, or nothing. -/
def statement (p : Progress) (cs : List Char) : Option (Progress × List Char) :=
  match cs with
  | '[' :: cs => header p cs
  | '#' :: _ => some (p, cs)
  | '\n' :: _ => some (p, cs)
  | [] => some (p, [])
  | cs => do
    let (path, v, cs) ← pair (cs.length + 2) cs
    return ({ p with entries := ← alterAt (putValue p.section_ v path) p.header p.entries }, cs)

/-- Reads the lines of a file. The fuel is the number of characters and one more. -/
def lines : (fuel : Nat) → Progress → List Char → Option Entries
  | 0, _, _ => none
  | fuel + 1, p, cs => do
    let (p, cs) ← statement p (skipSpaces cs)
    match ← comment? (skipSpaces cs) with
    | [] => return p.entries
    | '\n' :: cs => lines fuel p cs
    | _ => none

/-- Every pair of a carriage return and a line feed as a line feed. -/
def joinLineEnds : List Char → List Char
  | '\r' :: '\n' :: cs => '\n' :: joinLineEnds cs
  | c :: cs => c :: joinLineEnds cs
  | [] => []

/-- Reads a settings file. -/
def read? (cs : List Char) : Option (List (Value × Value)) :=
  let cs := joinLineEnds cs
  (lines (cs.length + 1) {} cs).map valuesOf

end ClusterPlan.Toml
