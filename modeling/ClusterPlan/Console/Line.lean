import ClusterPlan.Console.Cells

/-!
# Lines of a console and frames around them

A line is a row of pieces that are measured one by one, because a joiner or a selector acts within a piece
only. A line is fitted to a number of cells by adding a piece of spaces or by cutting the piece that
reaches the edge. A frame, with a title in its upper edge, is drawn around lines that all take the same number
of cells; a heading stands between two rules.
-/

namespace ClusterPlan.Console

/-- A line on its way to the console. -/
structure Line where
  pieces : List (List Char)
deriving DecidableEq, Repr

namespace Line

instance : Append Line := ⟨fun l m => ⟨l.pieces ++ m.pieces⟩⟩

/-- The line of one text. -/
def ofText (cs : List Char) : Line := ⟨[cs]⟩

/-- The line of `n` spaces. -/
def blank (n : Nat) : Line := ofText (spaces n)

/-- What a line shows. -/
def text (line : Line) : List Char :=
  line.pieces.flatten

/-- The cells that a line takes. -/
def cells (line : Line) : Nat :=
  (line.pieces.map Console.cells).foldr (· + ·) 0

/-- The pieces in front of the edge that is `width` cells away. The piece that reaches the edge is cut
there and is the last one. -/
def cutPieces (width : Nat) : List (List Char) → List (List Char)
  | [] => []
  | p :: ps =>
    if Console.cells p < width then p :: cutPieces (width - Console.cells p) ps else [Console.fit p width]

/-- The line cut down to at most `width` cells. -/
def crop (width : Nat) (line : Line) : Line :=
  if width < line.cells then ⟨cutPieces width line.pieces⟩ else line

/-- The line cut or filled with spaces to take `width` cells. -/
def fit (width : Nat) (line : Line) : Line :=
  if line.cells < width then line ++ blank (width - line.cells) else line.crop width

@[simp] theorem text_append (l m : Line) : (l ++ m).text = l.text ++ m.text := by
  show (l.pieces ++ m.pieces).flatten = _
  simp [text]

@[simp] theorem cells_append (l m : Line) : (l ++ m).cells = l.cells + m.cells := by
  show ((l.pieces ++ m.pieces).map Console.cells).foldr (· + ·) 0 = _
  rw [cells, cells]
  induction l.pieces with
  | nil => simp
  | cons p ps ih => simp only [List.cons_append, List.map_cons, List.foldr_cons, ih, Nat.add_assoc]

/-- A line that has room is not cut. -/
theorem crop_eq_self {width : Nat} {line : Line} (h : line.cells ≤ width) :
    line.crop width = line := by
  simp [crop, Nat.not_lt.2 h]

end Line

/-! ## Frames and rules -/

def bar (n : Nat) : List Char :=
  List.replicate n '─'

/-- A heading in the middle of a rule of `width` cells; four cells leave no room for the heading. -/
def headingRule (width : Nat) (heading : List Char) : List Char :=
  if width ≤ 4 then bar width
  else
    let heading := shorten heading (width - 4)
    let side := (width - cells heading) / 2
    fit (bar (side - 1) ++ ' ' :: heading ++ ' ' :: bar (side + 1)) width

/-- The text in the middle of a line of `width` cells. -/
def centred (width : Nat) (cs : List Char) : List Char :=
  let cs := if width < cells cs then fit cs width else cs
  let excess := width - cells cs
  bar (excess / 2) ++ cs ++ bar (excess - excess / 2)

/-- The upper edge of a frame around `width` cells. Two cells leave no room for the title. -/
def upperEdge (width : Nat) (title : List Char) : List Char :=
  if width ≤ 2 then '╭' :: bar width ++ ['╮']
  else '╭' :: '─' :: centred (width - 2) title ++ ['─', '╮']

/-- The lines of a frame around lines that take `width` cells each. -/
def framed (width : Nat) (title : List Char) (lines : List Line) : List Line :=
  .ofText (upperEdge width title)
    :: lines.map (fun line => .ofText ['│'] ++ line ++ .ofText ['│'])
    ++ [.ofText ('╰' :: bar width ++ ['╯'])]

/-- The lines on a console of `width` cells, each with a line feed behind it. -/
def printed (width : Nat) (lines : List Line) : String :=
  .ofList (lines.flatMap fun line => (line.crop width).text ++ ['\n'])

end ClusterPlan.Console
