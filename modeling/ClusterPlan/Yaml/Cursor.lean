import ClusterPlan.Yaml.Stream

/-!
# Cursors and tokens

A cursor is a place in a document: the characters that follow, and how many characters and lines lie before.
Moving on fails where the next characters cannot be had. The module also names the classes of characters that
the grammar distinguishes, and the tokens that a document is cut into.
-/

namespace ClusterPlan.Yaml

/-- A character that ends a line. -/
def isBreak (c : Char) : Bool :=
  c = '\n' || c = '\r' || c = '\u0085' || c = '\u2028' || c = '\u2029'

/-- A space or a tab. -/
def isSpace (c : Char) : Bool :=
  c = ' ' || c = '\t'

/-- A character that ends a word. -/
def isGap (c : Char) : Bool :=
  isSpace c || isBreak c

/-- A character of a name. -/
def isNameChar (c : Char) : Bool :=
  c.isAlphanum || c = '_' || c = '-'

/-- What a line break adds to a text: a line feed, or itself if it separates lines or paragraphs. -/
def breakText (c : Char) : List Char :=
  if c = '\u2028' || c = '\u2029' then [c] else ['\n']

/-- A place in a document. -/
structure Cursor where
  rest : List Char
  /-- Whether the document goes on behind the rest with characters that cannot be had. -/
  isCut : Bool
  index : Nat := 0
  line : Nat := 0
  column : Nat := 0

namespace Cursor

/-- The next character. -/
def peek? (c : Cursor) : Option Char := c.rest.head?

/-- The character `n` places further on. -/
def peekAt? (c : Cursor) (n : Nat) : Option Char := c.rest[n]?

def atEnd (c : Cursor) : Bool := c.rest.isEmpty

/-- Whether the next character is the given one. -/
def sees (c : Cursor) (x : Char) : Bool := c.peek? = some x

/-- Whether the character `n` places further on satisfies `p`; the end of the document does. -/
def endsAt (c : Cursor) (n : Nat) (p : Char → Bool) : Bool := (c.peekAt? n).all p

/-- Asks for the next `n` characters, or those up to the end of the document. -/
def need (c : Cursor) (n : Nat) : Scanned Unit :=
  if c.isCut && (c.rest.take n).length < n then .error .cut else .ok ()

/-- Passes `n` characters of a line. -/
def skip (c : Cursor) (n : Nat) : Cursor :=
  { c with rest := c.rest.drop n, index := c.index + n, column := c.column + n }

/-- Passes a line break. -/
def skipBreak (c : Cursor) : Cursor :=
  let next := { c with line := c.line + 1, column := 0 }
  match c.rest with
  | '\r' :: '\n' :: rest => { next with rest, index := c.index + 2 }
  | _ :: rest => { next with rest, index := c.index + 1 }
  | [] => c

/-- Passes a line break, which may be two characters. -/
def passBreak (c : Cursor) : Scanned Cursor := do
  c.need 2
  return c.skipBreak

/-- Begins a new line at the end of the document. -/
def endLine (c : Cursor) : Cursor :=
  if c.column = 0 then c else { c with line := c.line + 1, column := 0 }

/-- The characters of the line that satisfy `p`, and the place behind them. -/
def takeWhile (c : Cursor) (p : Char → Bool) : Scanned (List Char × Cursor) := do
  let taken := c.rest.takeWhile p
  let c := c.skip taken.length
  c.need 1
  return (taken, c)

def skipWhile (c : Cursor) (p : Char → Bool) : Scanned Cursor := do
  let (_, c) ← c.takeWhile p
  return c

/-- Passes a comment. -/
def skipComment (c : Cursor) : Scanned Cursor :=
  if c.sees '#' then c.skipWhile fun x => !isBreak x else return c

/-- Whether a line starts here with a mark of three characters that stands alone. -/
def seesMark (c : Cursor) (mark : Char) : Bool :=
  c.column = 0 && c.rest.take 3 = [mark, mark, mark] && c.endsAt 3 isGap

/-- Whether a document starts or ends here. -/
def seesDocumentMark (c : Cursor) : Bool :=
  c.seesMark '-' || c.seesMark '.'

end Cursor

/-- A token: a mark that opens, closes or divides a collection, or a name, a tag or a text between them. The
tokens `blockSequenceStart`, `blockMappingStart` and `blockEnd` stand for changes of the indentation. A tag is
in bytes, since escapes can spell bytes that are no text. -/
inductive Token where
  | streamEnd
  | version (major minor : Nat)
  | tagDirective (handle : String) (path : List UInt8)
  | documentStart
  | documentEnd
  | blockSequenceStart
  | blockMappingStart
  | blockEnd
  | flowSequenceStart
  | flowSequenceEnd
  | flowMappingStart
  | flowMappingEnd
  | blockEntry
  | flowEntry
  | key
  | value
  | alias (name : String)
  | anchor (name : String)
  | tag (handle : String) (suffix : List UInt8)
  | scalar (text : String) (plain : Bool)
deriving DecidableEq, Repr, Inhabited

end ClusterPlan.Yaml
