import ClusterPlan.Console.Line
import ClusterPlan.Text.Pieces

/-!
# Marked texts

Plain text with the spans that its tags mark. What is done to the text is done to the spans as well:
cutting the text trims them, dividing it divides them, and the spaces that a tab becomes belong to the spans
that end there. On the console every end of a span is the end of a piece of the line.
-/

namespace ClusterPlan.Console

/-- A part of a text and the style it has, if that has a name. -/
structure Span where
  first : Nat
  /-- The end of the part, which is not in it. -/
  last : Nat
  style : Option (List Char)
deriving DecidableEq, Repr

/-- The distance between tab stops. -/
def tabStop : Nat := 8

/-- A text with spans. -/
structure Marked where
  text : List Char
  spans : List Span
deriving DecidableEq, Repr

namespace Marked

def ofText (cs : List Char) : Marked := ⟨cs, []⟩

/-- The text with other characters. Where they are fewer, the spans are trimmed to them. -/
def withText (m : Marked) (cs : List Char) : Marked :=
  if cs.length < m.text.length then
    ⟨cs, (m.spans.filter (·.first < cs.length)).map fun s => { s with last := min s.last cs.length }⟩
  else
    { m with text := cs }

/-- The spans moved to the right. -/
def shift (n : Nat) (spans : List Span) : List Span :=
  spans.map fun s => { s with first := s.first + n, last := s.last + n }

/-- The part of a text from `first` up to `last`, with what its spans have in common with it. -/
def slice (m : Marked) (first last : Nat) : Marked :=
  ⟨(m.text.drop first).take (last - first),
    m.spans.filterMap fun s =>
      let start := s.first - first
      let stop := min s.last last - first
      if start < stop then some { s with first := start, last := stop } else none⟩

/-- The parts of a text of the given lengths, with `gap` characters left out between them. -/
def slices (m : Marked) (gap : Nat) (start : Nat) : List Nat → List Marked
  | [] => []
  | n :: ns => m.slice start (start + n) :: slices m gap (start + n + gap) ns

/-- Marked texts one behind the other. -/
def join : List Marked → Marked
  | [] => ofText []
  | m :: ms =>
    let rest := join ms
    ⟨m.text ++ rest.text, m.spans ++ shift m.text.length rest.spans⟩

/-- The lines of a text between line feeds. -/
def lines (m : Marked) : List Marked :=
  match Text.pieces '\n' m.text with
  | [_] => [m]
  | parts => m.slices 1 0 (parts.map List.length)

/-- The lengths of the parts of a text that end behind its tabs. -/
def tabLengths (cs : List Char) : List Nat :=
  match (Text.pieces '\t' cs).reverse with
  | [] => []
  | rest :: parts =>
    (parts.map (·.length + 1)).reverse ++ (if rest.isEmpty then [] else [rest.length])

/-- A part of a line with spaces in the place of the tab at its end, and the column behind it, when
`column` cells stand before it. A tab takes at least one cell. -/
def expandTab (column : Nat) (m : Marked) : Marked × Nat :=
  if m.text.getLast? == some '\t' then
    let text := m.text.dropLast ++ [' ']
    let stop := column + cells text
    let gap := (tabStop - stop % tabStop) % tabStop
    (⟨text ++ spaces gap,
      m.spans.map fun s => if text.length ≤ s.last then { s with last := s.last + gap } else s⟩,
      stop + gap)
  else
    (m, column + cells m.text)

/-- Replaces the tabs of the parts of a line behind `column` cells. -/
def expandParts (column : Nat) : List Marked → List Marked
  | [] => []
  | m :: ms =>
    let (part, column) := m.expandTab column
    part :: expandParts column ms

/-- A line with spaces in the place of tabs. -/
def expandTabs (m : Marked) : Marked :=
  if m.text.contains '\t' then join (expandParts 0 (m.slices 0 0 (tabLengths m.text))) else m

/-- Cuts a text in front of every position at which a span begins or ends. The characters of the current
piece are kept in reverse. -/
def cutAtSpans (spans : List Span) (position : Nat) (piece : List Char) : List Char → List (List Char)
  | [] => [piece.reverse]
  | c :: cs =>
    if spans.any fun s => s.first == position || s.last == position then
      piece.reverse :: cutAtSpans spans (position + 1) [c] cs
    else
      cutAtSpans spans (position + 1) (c :: piece) cs

/-- The line of a marked text. -/
def toLine (m : Marked) : Line :=
  ⟨(cutAtSpans m.spans 0 [] m.text).filter (!·.isEmpty)⟩

end Marked

end ClusterPlan.Console
