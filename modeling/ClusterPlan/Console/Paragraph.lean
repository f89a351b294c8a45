import ClusterPlan.Console.Marked
import ClusterPlan.Text.Pieces

/-!
# Paragraphs

A text laid out in a column of a given number of cells. Line feeds end lines and tabs lead to the next
multiple of eight cells. A paragraph is either flushed left and broken between words, or flushed right
without breaking; what does not fit is cut with an ellipsis.
-/

namespace ClusterPlan.Console

/-- Cuts a text in front of every character that is not blank and comes after a blank. -/
def cutBeforeWords : List Char → List (List Char)
  | [] => []
  | c :: cs =>
    match cs, cutBeforeWords cs with
    | d :: _, w :: ws =>
      if Text.isBlank c && !Text.isBlank d then [c] :: w :: ws else (c :: w) :: ws
    | _, ws => (c :: ws.headD []) :: ws.drop 1

/-- The words of a line, each with the blanks after it; the first one also has those before it. -/
def wordsWithBlanks (cs : List Char) : List (List Char) :=
  match cutBeforeWords (Text.trimStart cs) with
  | [] => [cs]
  | w :: ws => (cs.takeWhile Text.isBlank ++ w) :: ws

/-- Breaks words into lines of at most `width` cells, when `line` with its `used` cells has been begun. A
word goes on the next line if it does not fit on this one without the blanks after it. -/
def breakWords (width used : Nat) (line : List Char) : List (List Char) → List (List Char)
  | [] => [line]
  | w :: ws =>
    if used + cells (Text.trimEnd w) ≤ width then breakWords width (used + cells w) (line ++ w) ws
    else line :: breakWords width (cells w) w ws

/-- A line broken into lines of at most `width` cells, where words allow it. -/
def breakLine (width : Nat) (cs : List Char) : List (List Char) :=
  match wordsWithBlanks cs with
  | [] => [cs]
  | w :: ws => breakWords width (cells w) w ws

/-- Drops blanks from the end of a line while it has more than `width` characters. -/
def dropExcessBlanks (width : Nat) (cs : List Char) : List Char :=
  cs.take (cs.length - min (cs.length - width) (cs.reverse.takeWhile Text.isBlank).length)

/-- The line flushed left in the column. -/
def flushLeft (width : Nat) (cs : List Char) : List Char :=
  if width < cells cs then shorten cs width else cs ++ spaces (width - cells cs)

/-- The line flushed right in the column, without the blanks after it. -/
def flushRight (width : Nat) (m : Marked) : Marked :=
  let m := m.withText (Text.trimEnd m.text)
  let m := m.withText (shorten m.text width)
  let gap := width - cells m.text
  ⟨spaces gap ++ m.text, Marked.shift gap m.spans⟩

/-- The lines of a text as it was written, without tabs. -/
def writtenLines (m : Marked) : List Marked :=
  m.lines.map Marked.expandTabs

/-- A text flushed left and broken between words. A column without cells has no lines. -/
def leftParagraph (width : Nat) (cs : List Char) : List Line :=
  if width = 0 then []
  else (writtenLines (.ofText cs)).flatMap fun line =>
    (breakLine width line.text).map fun l => .ofText (flushLeft width (dropExcessBlanks width l))

/-- A text flushed right without breaking. A column without cells has no lines. -/
def rightParagraph (width : Nat) (m : Marked) : List Marked :=
  if width = 0 then []
  else (writtenLines m).map fun line =>
    flushRight width (line.withText (dropExcessBlanks width line.text))

/-- The cells of the widest line of a text. -/
def widestLine (cs : List Char) : Nat :=
  ((Text.lines cs).map cells).foldl max 0

end ClusterPlan.Console
