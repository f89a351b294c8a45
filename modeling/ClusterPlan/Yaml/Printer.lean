import ClusterPlan.Text.Printable
import ClusterPlan.Yaml.Tag

/-!
# Printing documents

A document is printed in block style: an entry or an item a line, nested collections indented by two
columns. A scalar is written plainly if its plain form reads back as the same text, between single
quotes if all its characters can stand there, and between double quotes otherwise. Lines are broken at
single spaces behind column eighty.
-/

namespace ClusterPlan.Yaml

/-- What is printed. -/
inductive Sheet where
  | null
  /-- A number or another word that is no text. -/
  | word (text : String)
  | text (s : String)
  | list (items : List String)
  | mapping (entries : List (String × Sheet))

/-! ## The forms of a scalar -/

/-- The forms of a scalar. -/
inductive Style where
  | plain
  | single
  | double
deriving DecidableEq, Repr

/-- A character that can stand in a plain scalar or between single quotes. -/
def isPlainChar (c : Char) : Bool :=
  c = '\n' || (' ' ≤ c && c ≤ '~')

/-- The characters that no plain scalar begins with, wherever it stands. -/
def openingMarks : List Char :=
  ['#', ',', '[', ']', '\x7b', '\x7d', '&', '*', '!', '|', '>', '\'', '"', '%', '@', '`']

/-- Whether a text holds a colon before a gap or a hash after one, `gap` telling whether a gap is
before it. -/
def hasMark (gap : Bool) : List Char → Bool
  | [] => false
  | c :: cs =>
    (c = ':' && cs.head?.all isGap) || (c = '#' && gap) || hasMark (isGap c) cs

/-- Whether a text has the marks of something else than a plain scalar. -/
def hasIndicator (cs : List Char) : Bool :=
  ['-', '-', '-'].isPrefixOf cs || ['.', '.', '.'].isPrefixOf cs ||
    match cs with
    | [] => false
    | c :: rest =>
      openingMarks.contains c || ((c = '?' || c = '-') && rest.head?.all isGap) || hasMark false cs

/-- Whether a space and a line break are next to each other, the first of them satisfying `p` and the
second `q`. -/
def hasPair (p q : Char → Bool) : List Char → Bool
  | c :: d :: cs => (p c && q d) || hasPair p q (d :: cs)
  | _ => false

/-- Whether all characters can stand between single quotes: none is special, and no space is next to a
line break. -/
def allowsSingle (cs : List Char) : Bool :=
  cs.all isPlainChar && !hasPair isBreak (· = ' ') cs && !hasPair (· = ' ') isBreak cs

/-- Whether a text can be written plainly. -/
def allowsPlain (cs : List Char) : Bool :=
  let edge (c : Option Char) : Bool := c.any fun c => c = ' ' || isBreak c
  allowsSingle cs && !edge cs.head? && !edge cs.getLast? && !cs.any isBreak && !hasIndicator cs

/-- The form of a text. Its plain form must not stand for something else. -/
def styleOf (s : String) : Style :=
  let cs := s.toList
  if allowsPlain cs && Tag.ofPlain s = .str then .plain
  else if allowsSingle cs then .single
  else .double

/-- The longest key on one line with its value, in bytes. -/
def keyWidth : Nat := 128

/-- Whether a key stands on one line with its value. -/
def isSimpleKey (s : String) : Bool :=
  !s.toList.any isBreak && s.utf8ByteSize ≤ keyWidth

/-! ## Pages -/

/-- A page: what is written, the column of the next character, whether a space was written last, and
whether the line is still blank. -/
structure Page where
  written : String := ""
  column : Nat := 0
  spaced : Bool := true
  blank : Bool := true

namespace Page

/-- The column behind which lines are broken. -/
def width : Nat := 80

/-- The columns of one level. -/
def step : Nat := 2

def put (p : Page) (c : Char) : Page :=
  { p with written := p.written.push c, column := p.column + 1 }

def putAll (p : Page) (cs : List Char) : Page :=
  cs.foldl put p

def putBreak (p : Page) (c : Char) : Page :=
  { p with written := p.written.push c, column := 0 }

/-- Goes to a column, on a new line unless this one is blank up to there. -/
def indentTo (p : Page) (indent : Nat) : Page :=
  let p := if !p.blank || indent < p.column || (p.column = indent && !p.spaced) then p.putBreak '\n'
    else p
  { p.putAll (List.replicate (indent - p.column) ' ') with spaced := true, blank := true }

/-- Writes a mark, behind a space if `apart`. It keeps a blank line blank only if `keeps`. -/
def mark (p : Page) (m : String) (apart keeps : Bool) : Page :=
  let p := if apart && !p.spaced then p.put ' ' else p
  { p.putAll m.toList with spaced := false, blank := p.blank && keeps }

/-- Whether a line is broken at a space: behind the last column, and if the space is single. -/
def breaksAt (p : Page) (folds : Bool) (before after : Option Char) : Bool :=
  folds && before != some ' ' && width < p.column && after != some ' '

/-- Writes the characters of a plain scalar. -/
def plainChars (folds : Bool) (indent : Nat) : Option Char → List Char → Page → Page
  | _, [], p => p
  | before, c :: cs, p =>
    let p :=
      if c = ' ' && p.breaksAt folds before cs.head? then p.indentTo indent
      else if c = ' ' then p.put c
      else { p.put c with blank := false }
    plainChars folds indent (some c) cs p

/-- Writes a plain scalar. -/
def plain (p : Page) (folds : Bool) (indent : Nat) (cs : List Char) : Page :=
  let p := if !p.spaced && !cs.isEmpty then p.put ' ' else p
  { plainChars folds indent none cs p with spaced := false, blank := false }

/-- Writes the characters between single quotes. A quote is written twice, and the first line break of
a run once more. -/
def singleChars (folds : Bool) (indent : Nat) : Option Char → List Char → Page → Page
  | before, [], p => if before.any isBreak then p.indentTo indent else p
  | before, c :: cs, p =>
    let broken := before.any isBreak
    let p :=
      if c = ' ' then
        if before.isSome && !cs.isEmpty && p.breaksAt folds before cs.head? then p.indentTo indent
        else p.put c
      else if isBreak c then
        let p := if !broken && c = '\n' then p.putBreak '\n' else p
        { p.putBreak c with blank := true }
      else
        let p := if broken then p.indentTo indent else p
        let p := if c = '\'' then p.put c else p
        { p.put c with blank := false }
    singleChars folds indent (some c) cs p

def single (p : Page) (folds : Bool) (indent : Nat) (cs : List Char) : Page :=
  let p := singleChars folds indent none cs (p.mark "'" true false)
  { p.mark "'" false false with spaced := false, blank := false }

/-- The hexadecimal digits of a number, in upper case. -/
def upperHex (width n : Nat) : List Char :=
  (Text.hex width n).map Char.toUpper

/-- What stands behind the backslash for a character. -/
def escapeOf (c : Char) : List Char :=
  let n := c.toNat
  if n = 0 then ['0']
  else if n = 7 then ['a']
  else if n = 8 then ['b']
  else if n = 9 then ['t']
  else if n = 0xA then ['n']
  else if n = 0xB then ['v']
  else if n = 0xC then ['f']
  else if n = 0xD then ['r']
  else if n = 0x1B then ['e']
  else if n = 0x22 then ['"']
  else if n = 0x5C then ['\\']
  else if n = 0x85 then ['N']
  else if n = 0xA0 then ['_']
  else if n = 0x2028 then ['L']
  else if n = 0x2029 then ['P']
  else if n ≤ 0xFF then 'x' :: upperHex 2 n
  else if n ≤ 0xFFFF then 'u' :: upperHex 4 n
  else 'U' :: upperHex 8 n

/-- Writes the characters between double quotes. `spaces` tells whether the last character was an
unescaped space. At a broken line the next space is escaped. -/
def doubleChars (folds : Bool) (indent : Nat) (start : Bool) : (spaces : Bool) → List Char → Page → Page
  | _, [], p => p
  | spaces, c :: cs, p =>
    if !isPlainChar c || isBreak c || c = '"' || c = '\\' then
      doubleChars folds indent false false cs (p.putAll ('\\' :: escapeOf c))
    else if c = ' ' then
      let p :=
        if folds && !spaces && width < p.column && !start && !cs.isEmpty then
          let p := p.indentTo indent
          if cs.head? = some ' ' then p.put '\\' else p
        else
          p.put c
      doubleChars folds indent false true cs p
    else
      doubleChars folds indent false false cs (p.put c)

def double (p : Page) (folds : Bool) (indent : Nat) (cs : List Char) : Page :=
  let p := doubleChars folds indent true false cs (p.mark "\"" true false)
  { p.mark "\"" false false with spaced := false, blank := false }

/-- Writes a text. Lines of it are broken if `folds`, and continued at a column. -/
def text (p : Page) (folds : Bool) (indent : Nat) (s : String) : Page :=
  match styleOf s with
  | .plain => p.plain folds indent s.toList
  | .single => p.single folds indent s.toList
  | .double => p.double folds indent s.toList

/-- Writes a key with its colon. A key that is too long or has several lines stands behind a question
mark, and the colon on the next line. -/
def key (p : Page) (indent : Nat) (s : String) : Page :=
  let p := p.indentTo indent
  if isSimpleKey s then
    (p.text false (indent + step) s).mark ":" false false
  else
    let p := (p.mark "?" true true).text true (indent + step) s
    (p.indentTo indent).mark ":" true true

/-- Writes the items of a list at a column. -/
def items (p : Page) (indent : Nat) (ss : List String) : Page :=
  ss.foldl (fun p s => ((p.indentTo indent).mark "-" true true).text true (indent + step) s) p

mutual

/-- Writes the value of an entry of a mapping at a column. -/
def value (p : Page) (indent : Nat) : Sheet → Page
  | .null => p.plain true (indent + step) "null".toList
  | .word s => p.plain true (indent + step) s.toList
  | .text s => p.text true (indent + step) s
  | .list [] => (p.mark "[" true false).mark "]" false false
  | .list (s :: ss) => p.items (if p.blank then indent + step else indent) (s :: ss)
  | .mapping [] => (p.mark "\x7b" true false).mark "\x7d" false false
  | .mapping (e :: es) => entries (p.entry (indent + step) e) (indent + step) es
termination_by structural s => s

/-- Writes the entries of a mapping at a column. -/
def entries (p : Page) (indent : Nat) : List (String × Sheet) → Page
  | [] => p
  | e :: es => entries (p.entry indent e) indent es
termination_by structural es => es

def entry (p : Page) (indent : Nat) : String × Sheet → Page
  | (k, v) => (p.key indent k).value indent v
termination_by structural e => e

end

end Page

/-- The text of a document that is a mapping. -/
def print (es : List (String × Sheet)) : String :=
  match es with
  | [] => "\x7b\x7d\n"
  | es => ((Page.entries {} 0 es).indentTo 0).written

end ClusterPlan.Yaml
