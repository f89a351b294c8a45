import ClusterPlan.Text.Pieces

/-!
# Numerals

Whole numbers as decimal text. A text with more than `digitLimit` digits is not turned into a number
and a number with more digits is not turned into a text: both take time quadratic in the number of
digits. `readInt` reads what a person types: blanks around it, a sign, digits of any script, single
underscores between digits. `Quantity.read?` reads a number with a unit behind it.
-/

namespace ClusterPlan.Text

/-! ## Digits

Every script writes its ten digits as ten consecutive code points in increasing order, so a script is known
by its zero. -/

/-- The zeros of all scripts, in increasing order. -/
def zeros : List Nat :=
  [48, 1632, 1776, 1984, 2406, 2534, 2662, 2790, 2918, 3046, 3174, 3302, 3430, 3558, 3664, 3792,
    3872, 4160, 4240, 6112, 6160, 6470, 6608, 6784, 6800, 6992, 7088, 7232, 7248, 42528, 43216,
    43264, 43472, 43504, 43600, 44016, 65296, 66720, 68912, 69734, 69872, 69942, 70096, 70384,
    70736, 70864, 71248, 71360, 71472, 71904, 72016, 72784, 73040, 73120, 92768, 92864, 93008,
    120782, 120792, 120802, 120812, 120822, 123200, 123632, 125264, 130032]

/-- The value of a decimal digit: its distance from the zero of its script. -/
def digit? (c : Char) : Option Nat :=
  (zeros.find? fun z => z ≤ c.toNat && c.toNat < z + 10).map (c.toNat - ·)

/-- A decimal digit of any script. -/
def isDigit (c : Char) : Bool :=
  (digit? c).isSome

/-- A digit has a value below ten. -/
theorem digit?_lt {c : Char} {d : Nat} (h : digit? c = some d) : d < 10 := by
  obtain ⟨z, hz, rfl⟩ := Option.map_eq_some_iff.1 h
  have := List.find?_some hz
  simp only [Bool.and_eq_true, decide_eq_true_eq] at this
  omega

/-! ## Whole numbers -/

/-- The most digits a number may have to be read or written. -/
def digitLimit : Nat := 4300

/-- The number a run of digits denotes, most significant digit first. -/
def ofDigits (cs : List Char) : Nat :=
  cs.foldl (fun n c => 10 * n + (digit? c).getD 0) 0

/-- What reading a numeral can give. -/
inductive Reading where
  | number (i : Int)
  /-- The text is a numeral, but of too many digits. -/
  | tooLong (digits : Nat)
  /-- The text is no numeral. -/
  | malformed
deriving DecidableEq, Repr

/-- The digits of a run in which single underscores may stand between two digits. -/
def groupedDigits? : List Char → Option (List Char)
  | [] => none
  | [c] => if isDigit c then some [c] else none
  | c :: '_' :: d :: cs =>
    if isDigit c then (groupedDigits? (d :: cs)).map (c :: ·) else none
  | c :: d :: cs =>
    if isDigit c then (groupedDigits? (d :: cs)).map (c :: ·) else none

/-- Splits off a leading sign; the flag tells whether it was a minus. -/
def splitSign : List Char → Bool × List Char
  | '-' :: cs => (true, cs)
  | '+' :: cs => (false, cs)
  | cs => (false, cs)

/-- Reads a whole number. The digits are counted before what follows them is looked at. -/
def readInt (cs : List Char) : Reading :=
  let (negative, cs) := splitSign (cs.dropWhile isNumeralBlank)
  let isPart (c : Char) : Bool := isDigit c || c == '_'
  match groupedDigits? (cs.takeWhile isPart) with
  | none => .malformed
  | some ds =>
    if digitLimit < ds.length then .tooLong ds.length
    else if !(cs.dropWhile isPart).all isNumeralBlank then .malformed
    else .number (if negative then -(ofDigits ds : Int) else ofDigits ds)

/-- A number can be written when it has at most `digitLimit` digits. -/
def isWritable (i : Int) : Bool :=
  i.natAbs < Nat.pow 10 digitLimit

/-- The decimal digits of a number, padded with zeros to at least `width` characters. -/
def padded (width : Nat) (n : Nat) : String :=
  let ds := Nat.toDigits 10 n
  .ofList (List.replicate (width - ds.length) '0' ++ ds)

/-! ## Quantities

A quantity is a run of digits and an optional unit of ASCII letters, with blanks before, between and after
them. Digits, letters and blanks exclude one another, so each run ends where the next begins. -/

/-- A letter of the ASCII alphabet. -/
def isLetter (c : Char) : Bool :=
  ('a' ≤ c && c ≤ 'z') || ('A' ≤ c && c ≤ 'Z')

/-- A number and a unit as they were written. -/
structure Quantity where
  digits : List Char
  unit : List Char
deriving DecidableEq, Repr

/-- Reads a quantity; `none` if the text has another form. -/
def Quantity.read? (cs : List Char) : Option Quantity :=
  let number := trimStart cs
  let digits := number.takeWhile isDigit
  let afterDigits := trimStart (number.dropWhile isDigit)
  let unit := afterDigits.takeWhile isLetter
  let rest := trimStart (afterDigits.dropWhile isLetter)
  if digits.isEmpty || !rest.isEmpty then none else some ⟨digits, unit⟩

/-- The unit as written. -/
def Quantity.unitText (q : Quantity) : String :=
  .ofList q.unit

/-- The unit in lower case, in which units are looked up. -/
def Quantity.unitName (q : Quantity) : String :=
  .ofList (q.unit.map Char.toLower)

end ClusterPlan.Text
