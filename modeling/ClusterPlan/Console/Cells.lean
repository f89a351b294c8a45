import ClusterPlan.Console.Cells.Width

/-!
# Cells

The cells that a text takes on a terminal. A joiner draws the character behind it into the one before it,
and a selector makes some narrow characters wide, so a text is measured as a whole and cut between
glyphs. A text is fitted to a number of cells by adding spaces or by cutting it; a wide glyph that would
be cut in half gives way to a space.
-/

namespace ClusterPlan.Console

/-- The character that draws the one behind it into the one before it. -/
def joiner : Char := '\u200D'

/-- The character that asks for the one before it as a wide picture. -/
def selector : Char := '\uFE0F'

/-- The cells that a selector adds to the last character that took any. -/
def addedWidth : Option Char → Nat
  | some c => if isWidened c then 1 else 0
  | none => 0

/-- The cells that a text takes behind `last`, the last character that took any. -/
def cellsBehind (last : Option Char) : List Char → Nat
  | [] => 0
  | ['\u200D'] => 0
  | '\u200D' :: _ :: cs => cellsBehind last cs
  | c :: cs =>
    if c = selector then addedWidth last + cellsBehind none cs
    else if cellWidth c = 0 then cellsBehind last cs
    else cellWidth c + cellsBehind (some c) cs

/-- The cells that a text takes. -/
def cells (cs : List Char) : Nat :=
  cellsBehind none cs

def spaces (n : Nat) : List Char :=
  List.replicate n ' '

/-- Characters that are shown as one. -/
structure Glyph where
  text : List Char
  width : Nat
deriving DecidableEq, Repr

/-- The glyph with more characters in it. -/
def Glyph.extend (g : Glyph) (cs : List Char) (width : Nat) : Glyph :=
  ⟨g.text ++ cs, g.width + width⟩

/-- The glyphs of a text behind the glyphs that have been read, which are kept in reverse; `last` is the
last character that took a cell and that no selector has made wide. A mark that has nothing before it
is a glyph of its own. -/
def glyphsBehind (last : Option Char) (done : List Glyph) : List Char → List Glyph
  | [] => done.reverse
  | c :: cs =>
    match done with
    | [] =>
      let width := if c = joiner || c = selector then 0 else cellWidth c
      glyphsBehind (if width = 0 then last else some c) [⟨[c], width⟩] cs
    | g :: done =>
      if c = joiner then
        match cs with
        | [] => (g.extend [c] 0 :: done).reverse
        | d :: cs => glyphsBehind last (g.extend [c, d] 0 :: done) cs
      else if c = selector then
        let width := addedWidth last
        glyphsBehind (if width = 0 then last else none) (g.extend [c] width :: done) cs
      else if cellWidth c = 0 then glyphsBehind last (g.extend [c] 0 :: done) cs
      else glyphsBehind (some c) (⟨[c], cellWidth c⟩ :: g :: done) cs

/-- The glyphs of a text. -/
def glyphs (cs : List Char) : List Glyph :=
  glyphsBehind none [] cs

/-- The beginning of a row of glyphs that takes `room` cells. -/
def takeGlyphs (room : Nat) : List Glyph → List Char
  | [] => []
  | g :: gs =>
    if room = 0 then []
    else if g.width ≤ room then g.text ++ takeGlyphs (room - g.width) gs
    else [' ']

/-- The text cut or filled with spaces to take `total` cells. -/
def fit (cs : List Char) (total : Nat) : List Char :=
  if total = 0 then []
  else if cells cs ≤ total then cs ++ spaces (total - cells cs)
  else takeGlyphs total (glyphs cs)

/-- The text with an ellipsis in place of what does not fit. -/
def shorten (cs : List Char) (total : Nat) : List Char :=
  if total < cells cs then fit cs (total - 1) ++ ['…'] else cs

end ClusterPlan.Console
