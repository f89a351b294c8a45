/-!
# Pieces of texts

The ways in which a text is cut: the blanks are stripped from its ends, and it is split into pieces between
separators, into words, into lines, or at an equals sign into a key and a value.
-/

namespace ClusterPlan.Text

/-! ## Blanks

White space as Unicode counts it, together with the four information separators. What is stripped is blank
throughout, and what remains neither starts nor ends with a blank. -/

/-- The blank characters as ranges of code points, in increasing order. -/
def blankRanges : List (Nat × Nat) :=
  [(0x9, 0xD), (0x1C, 0x20), (0x85, 0x85), (0xA0, 0xA0), (0x1680, 0x1680), (0x2000, 0x200A),
    (0x2028, 0x2029), (0x202F, 0x202F), (0x205F, 0x205F), (0x3000, 0x3000)]

/-- A blank is a character of one of the blank ranges. -/
def isBlank (c : Char) : Bool :=
  blankRanges.any fun (first, last) => first ≤ c.toNat && c.toNat ≤ last

/-- The text without the blanks it starts with. -/
def trimStart (cs : List Char) : List Char :=
  cs.dropWhile isBlank

/-- The text without the blanks it ends with. -/
def trimEnd (cs : List Char) : List Char :=
  (cs.reverse.dropWhile isBlank).reverse

/-- The text without the blanks at either end. -/
def trim (cs : List Char) : List Char :=
  trimEnd (trimStart cs)

/-- A blank that may stand around a numeral: of ASCII only the space and the characters that move to
another place on the page. -/
def isNumeralBlank (c : Char) : Bool :=
  isBlank c && !(0x1C ≤ c.toNat && c.toNat ≤ 0x1F)

/-- The text without the blanks that may stand around a numeral. -/
def trimNumeral (cs : List Char) : List Char :=
  ((cs.dropWhile isNumeralBlank).reverse.dropWhile isNumeralBlank).reverse

/-- `trim` on strings. -/
def strip (s : String) : String :=
  .ofList (trim s.toList)

/-- A text is blank when it holds nothing but blanks. -/
def isBlankText (s : String) : Bool :=
  s.toList.all isBlank

/-- The leading blanks and the rest make up the text. -/
theorem takeWhile_append_trimStart (cs : List Char) :
    cs.takeWhile isBlank ++ trimStart cs = cs :=
  List.takeWhile_append_dropWhile

@[simp] theorem trim_nil : trim [] = [] := rfl

/-! ## Separators -/

/-- The pieces of a text between separators, the empty ones included. -/
def pieces (separator : Char) : List Char → List (List Char)
  | [] => [[]]
  | c :: cs =>
    if c = separator then [] :: pieces separator cs
    else
      match pieces separator cs with
      | [] => [[c]]
      | p :: ps => (c :: p) :: ps

/-- The pieces of a text between occurrences of a separator of several characters, which is not empty.
The fuel is the length of the text and one more; the characters of the current piece are kept in
reverse. -/
def piecesBetween (separator : List Char) :
    (fuel : Nat) → (piece : List Char) → List Char → List (List Char)
  | 0, piece, cs => [piece.reverse ++ cs]
  | _ + 1, piece, [] => [piece.reverse]
  | fuel + 1, piece, c :: cs =>
    if separator.isPrefixOf (c :: cs) then
      piece.reverse :: piecesBetween separator fuel [] (cs.drop (separator.length - 1))
    else
      piecesBetween separator fuel (c :: piece) cs

/-- The words of a text, with blanks around them. -/
def words (cs : List Char) : List (List Char) :=
  (cs.foldr (fun c ws =>
    if isBlank c then [] :: ws
    else
      match ws with
      | [] => [[c]]
      | w :: ws => (c :: w) :: ws) [[]]).filter fun w => !w.isEmpty

/-! ## Lines

A text is cut into lines at every line boundary that Unicode knows; a carriage return with a line feed after
it counts as one boundary. A boundary at the end of the text opens no further line. -/

/-- A character that ends a line. -/
def isLineBreak (c : Char) : Bool :=
  (10 ≤ c.toNat && c.toNat ≤ 13) || (0x1C ≤ c.toNat && c.toNat ≤ 0x1E) || c.toNat == 0x85
    || c.toNat == 0x2028 || c.toNat == 0x2029

/-- Puts a character in front of the first line. -/
def consLine (c : Char) : List (List Char) → List (List Char)
  | [] => [[c]]
  | line :: lines => (c :: line) :: lines

/-- The lines of a text without their boundaries. -/
def lines : List Char → List (List Char)
  | [] => []
  | '\r' :: '\n' :: cs => [] :: lines cs
  | c :: cs => if isLineBreak c then [] :: lines cs else consLine c (lines cs)

/-- Every line end of a text file as a line feed. -/
def unifyLineEnds : List Char → List Char
  | [] => []
  | '\r' :: '\n' :: cs => '\n' :: unifyLineEnds cs
  | '\r' :: cs => '\n' :: unifyLineEnds cs
  | c :: cs => c :: unifyLineEnds cs

@[simp] theorem lines_nil : lines [] = [] := rfl

/-! ## Assignments

An assignment is a key and a value with an equals sign between them, the first one of the text. Blanks
around the key and the value do not belong to them, and the key is not empty. -/

/-- Cuts a text at its first equals sign. -/
def cutAtEquals (cs : List Char) : Option (List Char × List Char) :=
  match cs.dropWhile (· != '=') with
  | [] => none
  | _ :: value => some (cs.takeWhile (· != '='), value)

/-- The key and the value of an assignment. -/
def assignment? (s : String) : Option (String × String) :=
  match cutAtEquals s.toList with
  | none => none
  | some (key, value) =>
    let key := trim key
    if key.isEmpty then none else some (.ofList key, .ofList (trim value))

end ClusterPlan.Text
