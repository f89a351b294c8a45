import ClusterPlan.Yaml.Cursor

/-!
# Scalars in a document

A scalar is written plainly, between quotes, or as a block of lines. A line break inside a plain or
quoted scalar is folded: alone it counts as a space, and of several in a row all but the first count.
Each reader gives the text and the place behind it.
-/

namespace ClusterPlan.Yaml

/-- What lies between two words of a scalar: spaces, or a line break and further line breaks. -/
structure Gap where
  spaces : List Char := []
  first : List Char := []
  more : List Char := []
  broken : Bool := false

/-- What a gap adds to the text. -/
def Gap.fold (g : Gap) : List Char :=
  if !g.broken then g.spaces
  else if g.first = ['\n'] then (if g.more.isEmpty then [' '] else g.more)
  else g.first ++ g.more

/-- Reads a gap that has begun. A tab to the left of the column `limit` cannot indent a line. The fuel
is the number of characters. -/
def readGap (limit : Int) : (fuel : Nat) → Gap → Cursor → Scanned (Gap × Cursor)
  | 0, g, c => return (g, c)
  | fuel + 1, g, c => do
    c.need 1
    match c.peek? with
    | none => return (g, c)
    | some x =>
      if isSpace x then
        if g.broken && x = '\t' && (c.column : Int) < limit then
          malformed
        readGap limit fuel (if g.broken then g else { g with spaces := g.spaces ++ [x] }) (c.skip 1)
      else if isBreak x then
        let g :=
          if g.broken then { g with more := g.more ++ breakText x }
          else { g with spaces := [], first := breakText x, broken := true }
        readGap limit fuel g (← c.passBreak)
      else
        return (g, c)

/-! ## Plain scalars -/

/-- Reads the characters up to the end of a word. Inside brackets a colon must not stand right before
another mark. The fuel is the number of characters. -/
def readWord (flow : Bool) : (fuel : Nat) → Cursor → Scanned (List Char × Cursor)
  | 0, c => return ([], c)
  | fuel + 1, c => do
    let marks := [',', '[', ']', '\x7b', '\x7d']
    match c.peek? with
    | none => return ([], c)
    | some x =>
      if isGap x then
        return ([], c)
      else if flow && x = ':' && (c.peekAt? 1).any fun y => y = '?' || marks.contains y then
        malformed
      else if x = ':' && c.endsAt 1 isGap then
        return ([], c)
      else if flow && marks.contains x then
        return ([], c)
      else
        let c := c.skip 1
        c.need 2
        let (word, c) ← readWord flow fuel c
        return (x :: word, c)

/-- Reads the words of a plain scalar. The result tells whether a line break was passed after the last
word. -/
def readPlain (flow : Bool) (indent : Int) :
    (fuel : Nat) → List Char → Gap → Cursor → Scanned (List Char × Bool × Cursor)
  | 0, text, g, c => return (text, g.broken, c)
  | fuel + 1, text, g, c => do
    c.need 4
    if c.seesDocumentMark || c.sees '#' then
      return (text, g.broken, c)
    let (word, c) ← readWord flow c.rest.length c
    let (text, g) := if word.isEmpty then (text, g) else (text ++ g.fold ++ word, {})
    if c.endsAt 0 fun x => !isGap x then
      return (text, g.broken, c)
    let (g, c) ← readGap indent (c.rest.length + 1) g c
    if !flow && (c.column : Int) < indent then
      return (text, g.broken, c)
    readPlain flow indent fuel text g c

/-! ## Quoted scalars -/

/-- The character that a letter behind a backslash stands for. -/
def escapeOf? : Char → Option Char
  | '0' => some '\x00'
  | 'a' => some '\x07'
  | 'b' => some '\x08'
  | 't' | '\t' => some '\t'
  | 'n' => some '\n'
  | 'v' => some '\x0b'
  | 'f' => some '\x0c'
  | 'r' => some '\r'
  | 'e' => some '\x1b'
  | ' ' => some ' '
  | '"' => some '"'
  | '/' => some '/'
  | '\\' => some '\\'
  | 'N' => some '\u0085'
  | '_' => some '\u00a0'
  | 'L' => some '\u2028'
  | 'P' => some '\u2029'
  | _ => none

/-- The number of hexadecimal digits behind a letter that announces a code point. -/
def codeLength? : Char → Option Nat
  | 'x' => some 2
  | 'u' => some 4
  | 'U' => some 8
  | _ => none

def hexDigit? (c : Char) : Option Nat :=
  if c.isDigit then some (c.toNat - 48)
  else if 'a' ≤ c && c ≤ 'f' then some (c.toNat - 87)
  else if 'A' ≤ c && c ≤ 'F' then some (c.toNat - 55)
  else none

/-- The number that hexadecimal digits denote. -/
def hexNumber? (ds : List Char) : Option Nat :=
  ds.foldlM (fun n d => (hexDigit? d).map (16 * n + ·)) 0

/-- Reads `n` hexadecimal digits as a code point. -/
def readCode (n : Nat) (c : Cursor) : Scanned (Char × Cursor) := do
  c.need n
  match if c.rest.length < n then none else hexNumber? (c.rest.take n) with
  | some code =>
    if (0xD800 ≤ code && code ≤ 0xDFFF) || 0x10FFFF < code then
      malformed
    return (Char.ofNat code, c.skip n)
  | none => malformed

/-- Reads the characters of a quoted scalar up to a gap or the closing quote. The result tells whether
the word ends with an escaped line break. -/
def readQuotedWord (double : Bool) :
    (fuel : Nat) → List Char → Cursor → Scanned (List Char × Bool × Cursor)
  | 0, word, c => return (word, false, c)
  | fuel + 1, word, c => do
    c.need 2
    match c.rest with
    | [] => return (word, false, c)
    | x :: rest =>
      if isGap x then
        return (word, false, c)
      else if !double && x = '\'' && rest.head? = some '\'' then
        readQuotedWord double fuel (word ++ ['\'']) (c.skip 2)
      else if x = (if double then '"' else '\'') then
        return (word, false, c)
      else if double && x = '\\' then
        match rest with
        | [] => malformed
        | y :: _ =>
          if isBreak y then do
            c.need 3
            return (word, true, (c.skip 1).skipBreak)
          else
            match codeLength? y, escapeOf? y with
            | some n, _ => do
              let (z, c) ← readCode n (c.skip 2)
              readQuotedWord double fuel (word ++ [z]) c
            | none, some z => readQuotedWord double fuel (word ++ [z]) (c.skip 2)
            | none, none => malformed
      else
        readQuotedWord double fuel (word ++ [x]) (c.skip 1)

/-- Reads a quoted scalar behind its opening quote, up to and including the closing one. -/
def readQuoted (double : Bool) :
    (fuel : Nat) → List Char → Cursor → Scanned (List Char × Cursor)
  | 0, _, _ => malformed
  | fuel + 1, text, c => do
    c.need 4
    if c.seesDocumentMark || c.atEnd then
      malformed
    let (word, escapedBreak, c) ← readQuotedWord double (c.rest.length + 1) [] c
    c.need 1
    let text := text ++ word
    if c.sees (if double then '"' else '\'') then
      return (text, c.skip 1)
    let (g, c) ← readGap 0 (c.rest.length + 1) { broken := escapedBreak } c
    readQuoted double fuel (text ++ g.fold) c

/-! ## Block scalars -/

/-- What becomes of the line breaks at the end of a block. -/
inductive Chomping where
  | strip
  | clip
  | keep
deriving DecidableEq, Repr

/-- The sign that tells how a block ends. -/
def readChomping (c : Cursor) : Option (Chomping × Cursor) :=
  if c.sees '+' then some (.keep, c.skip 1)
  else if c.sees '-' then some (.strip, c.skip 1)
  else none

/-- The digit that gives the indentation of a block; it is not zero. A missing digit gives zero. -/
def readIndent (c : Cursor) : Scanned (Nat × Cursor) :=
  match c.peek? with
  | some x =>
    if x = '0' then malformed
    else if x.isDigit then return (x.toNat - 48, c.skip 1)
    else return (0, c)
  | none => return (0, c)

/-- The sign and the digit behind the mark of a block, in either order. -/
def readHeader (c : Cursor) : Scanned (Chomping × Nat × Cursor) := do
  c.need 1
  match readChomping c with
  | some (chomping, c) =>
    c.need 1
    let (n, c) ← readIndent c
    return (chomping, n, c)
  | none =>
    let (n, c) ← readIndent c
    if n = 0 then
      return (.clip, n, c)
    c.need 1
    match readChomping c with
    | some (chomping, c) => return (chomping, n, c)
    | none => return (.clip, n, c)

/-- Passes the indentation and the empty lines before a line of a block. `indent` is the column of the
block, or zero as long as it is not known; `deepest` is the rightmost column reached. -/
def readBlockBreaks (indent : Nat) :
    (fuel : Nat) → (deepest : Nat) → List Char → Cursor → Scanned (Nat × List Char × Cursor)
  | 0, deepest, breaks, c => return (deepest, breaks, c)
  | fuel + 1, deepest, breaks, c => do
    let left := c.rest.takeWhile (· = ' ')
    let c := c.skip (if indent = 0 then left.length else min left.length (indent - c.column))
    c.need 1
    let deepest := max deepest c.column
    if (indent = 0 || c.column < indent) && c.sees '\t' then
      malformed
    match c.peek? with
    | some x =>
      if isBreak x then
        readBlockBreaks indent fuel deepest (breaks ++ breakText x) (← c.passBreak)
      else
        return (deepest, breaks, c)
    | none => return (deepest, breaks, c)

/-- A block as far as it is read: its text, the break at the end of the last line, the empty lines
after it, and whether the last line began with a space. -/
structure Block where
  text : List Char := []
  lastBreak : List Char := []
  breaks : List Char := []
  spaced : Bool := false

/-- Reads the lines of a block that is indented to a column. In a folded block the break between two
lines that do not begin with a space counts as a space. -/
def readBlockLines (literal : Bool) (indent : Nat) : (fuel : Nat) → Block → Cursor →
    Scanned (Block × Cursor)
  | 0, b, c => return (b, c)
  | fuel + 1, b, c => do
    if c.column != indent || c.atEnd then
      return (b, c)
    let spaced := c.rest.head?.any isSpace
    let joint :=
      if !literal && b.lastBreak.head? = some '\n' && !b.spaced && !spaced then
        (if b.breaks.isEmpty then [' '] else [])
      else
        b.lastBreak
    let (line, c) ← c.takeWhile fun x => !isBreak x
    let text := b.text ++ joint ++ b.breaks ++ line
    let lastBreak := (c.peek?.map breakText).getD []
    let c ← c.passBreak
    let (_, breaks, c) ← readBlockBreaks indent (c.rest.length + 1) 0 [] c
    readBlockLines literal indent fuel ⟨text, lastBreak, breaks, spaced⟩ c

/-- Reads a block scalar behind its mark. `parent` is the column of the collection that holds it. -/
def readBlock (literal : Bool) (parent : Int) (c : Cursor) : Scanned (List Char × Cursor) := do
  let (chomping, increment, c) ← readHeader c
  let c ← (← c.skipWhile isSpace).skipComment
  if !c.endsAt 0 isBreak then
    malformed
  let c ← c.passBreak
  let indent : Nat := if increment = 0 then 0 else (max parent 0).toNat + increment
  let (deepest, breaks, c) ← readBlockBreaks indent (c.rest.length + 1) 0 [] c
  let indent := if indent = 0 then max deepest (max (parent + 1).toNat 1) else indent
  let (b, c) ← readBlockLines literal indent (c.rest.length + 1) { breaks } c
  let ending := match chomping with
    | .strip => []
    | .clip => b.lastBreak
    | .keep => b.lastBreak ++ b.breaks
  return (b.text ++ ending, c)

end ClusterPlan.Yaml
