import ClusterPlan.Console.Markup
import ClusterPlan.Console.Paragraph

/-!
# Grids of labels and values

Labels flushed right in one column and their values flushed left in another. Labels are markup and
values are plain text. The columns are as wide as their contents; when there is not enough room, the
values give way first. A style is looked up when what it belongs to is drawn, so a style that cannot be
looked up is a failure only where there is room.
-/

namespace ClusterPlan.Console

/-- The outcome of looking up a style. -/
abbrev StyleCheck := Except Failure Unit

/-- A row of a grid. -/
structure GridRow where
  /-- The label as markup. -/
  label : List Char
  value : List Char
  /-- The style of the value. -/
  style : StyleCheck

/-- A row whose label has been read. -/
structure ShownRow where
  label : Marked
  value : List Char
  style : StyleCheck

/-- The row with its label as marked text. -/
def GridRow.shown (row : GridRow) : Except Failure ShownRow := do
  return ⟨← readMarkup row.label, withoutControls row.value, row.style⟩

/-- The cells between a label and its value. -/
def gridGap : Nat := 3

/-- The widths of the two columns in a room of `room` cells, the gap included in the first one. -/
def gridWidths (room : Nat) (rows : List ShownRow) : Nat × Nat :=
  let labels := min ((rows.map fun r => widestLine r.label.text).foldl max 0 + gridGap) room
  let values := min (max ((rows.map fun r => widestLine r.value).foldl max 0) 1) room
  (labels, min values (room - labels))

/-- Fits the lines of a column and fills it up to a number of lines. -/
def fillColumn (width height : Nat) (lines : List Line) : List Line :=
  lines.map (·.fit width) ++ List.replicate (height - lines.length) (.blank width)

/-- Looks up the styles of the spans of some lines. -/
def checkSpans (lines : List Marked) : StyleCheck :=
  (lines.flatMap (·.spans)).forM fun s =>
    match s.style with
    | some style => checkStyleLeniently style
    | none => .ok ()

/-- The lines of a row. -/
def rowLines (labelWidth valueWidth : Nat) (row : ShownRow) : Except Failure (List Line) := do
  let inner := labelWidth - gridGap
  let label := rightParagraph inner row.label
  checkSpans label
  unless valueWidth = 0 do
    row.style
  let label := label.map fun m => (m.toLine.fit inner ++ .blank gridGap).fit labelWidth
  let value := (leftParagraph valueWidth row.value).map (·.fit valueWidth)
  let height := max 1 (max label.length value.length)
  return List.zipWith (· ++ ·) (fillColumn labelWidth height label) (fillColumn valueWidth height value)

/-- The lines of a grid in a room of `room` cells, filled up with spaces. Where there is no room for
more than the gap, the labels are not read and the lines are blank. -/
def gridLines (room : Nat) (labelStyle : StyleCheck) (rows : List GridRow) :
    Except Failure (List Line) := do
  if room = 0 then
    return []
  let shown ← if room ≤ gridGap then pure [] else rows.mapM GridRow.shown
  labelStyle
  if room ≤ gridGap then
    return rows.map fun _ => .blank room
  let (labels, values) := gridWidths room shown
  return (← shown.mapM (rowLines labels values)).flatten.map (·.fit room)

end ClusterPlan.Console
