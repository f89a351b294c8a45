import ClusterPlan.Text.CharacterName.Table
import ClusterPlan.Text.Printable

/-!
# Names of characters

Whether a text is the name of a character. The names of unified ideographs and of Korean syllables follow
rules, in capitals. Every other name is known by its code, a number that follows from its letters
whatever their case. Every name is recognised; of the texts that are no names, a few in a thousand have
the code of one.
-/

namespace ClusterPlan.Text

/-! ## Names that follow rules -/

/-- What stands before the code point of a unified ideograph in its name. -/
def ideographName : List Char := "CJK UNIFIED IDEOGRAPH-".toList

/-- The unified ideographs, as ranges of code points in increasing order. -/
def ideographRanges : Array (Nat × Nat) := #[
  (13312, 19903), (19968, 40959), (131072, 173791), (173824, 177976), (177984, 178205),
  (178208, 183969), (183984, 191456), (196608, 201546)]

/-- The value of a hexadecimal digit, a letter in capitals. -/
def capitalHexDigit? (c : Char) : Option Nat :=
  if c.isDigit then some (c.toNat - 48)
  else if 'A' ≤ c && c ≤ 'F' then some (c.toNat - 55)
  else none

/-- Whether four or five digits are the code point of a unified ideograph. -/
def isIdeographCode (ds : List Char) : Bool :=
  (ds.length == 4 || ds.length == 5)
    && (ds.mapM capitalHexDigit?).any fun values =>
      inRanges ideographRanges (values.foldl (fun n d => 16 * n + d) 0) ideographRanges.size 0
        ideographRanges.size

/-- What stands before the letters of a Korean syllable in its name. -/
def syllableName : List Char := "HANGUL SYLLABLE ".toList

/-- The first letters of Korean syllables; there may be none. -/
def syllableHeads : List String :=
  ["G", "GG", "N", "D", "DD", "R", "M", "B", "BB", "S", "SS", "", "J", "JJ", "C", "K", "T", "P", "H"]

/-- The vowels of Korean syllables. -/
def syllableVowels : List String :=
  ["A", "AE", "YA", "YAE", "EO", "E", "YEO", "YE", "O", "WA", "WAE", "OE", "YO", "U", "WEO", "WE",
    "WI", "YU", "EU", "YI", "I"]

/-- The last letters of Korean syllables; there may be none. -/
def syllableTails : List String :=
  ["", "G", "GG", "GS", "N", "NJ", "NH", "D", "L", "LG", "LM", "LB", "LS", "LT", "LP", "LH", "M",
    "B", "BS", "S", "SS", "NG", "J", "C", "K", "T", "P", "H"]

/-- Whether the letters are those of a Korean syllable. -/
def isSyllable (letters : List Char) : Bool :=
  (strip syllableHeads [letters] |> strip syllableVowels |> strip syllableTails).contains []
where
  /-- What is left of some texts when one of the beginnings is taken off. -/
  strip (beginnings : List String) (texts : List (List Char)) : List (List Char) :=
    texts.flatMap fun cs => beginnings.filterMap fun b => b.toList.isPrefixOf? cs

/-! ## Names with codes -/

/-- The number of codes. -/
def nameModulus : Nat := 11000027

/-- By how much a code grows with each letter. -/
def nameFactor : Nat := 4099

/-- The code of a name. -/
def nameCode (name : List Char) : Nat :=
  name.foldl (fun n c => (n + c.toUpper.toNat) * nameFactor % nameModulus) 0

/-- The value of a digit of the table: digits come before capitals, and these before small letters. -/
def distanceDigit (c : Char) : Nat :=
  if c.isDigit then c.toNat - 48 else if c.isUpper then c.toNat - 55 else c.toNat - 61

/-- Whether a code is among those that are written as distances behind the code `last`. -/
def hasCode (code : Nat) : (last : Nat) → List Char → Bool
  | last, a :: b :: distances =>
    let next := last + 62 * distanceDigit a + distanceDigit b
    next == code || (next < code && hasCode code next distances)
  | _, _ => false

/-- A character of a name. -/
def isNameLetter (c : Char) : Bool :=
  c.isAlphanum || c = ' ' || c = '-'

/-- Whether a text is the name of a character. -/
def isCharacterName (name : List Char) : Bool :=
  match ideographName.isPrefixOf? name, syllableName.isPrefixOf? name with
  | some digits, _ => isIdeographCode digits
  | _, some letters => isSyllable letters
  | none, none =>
    name.all isNameLetter
      && hasCode (nameCode name) 0 (nameCodeTable.toList.filter (· != '\n'))

end ClusterPlan.Text
