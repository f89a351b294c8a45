import ClusterPlan.Text.Case.Table
import ClusterPlan.Text.Printable

/-!
# Small letters and capitals

A text in small letters or in capitals. A letter may have several letters for its counterpart, and the
Greek capital sigma has another small letter at the end of a word.
-/

namespace ClusterPlan.Text

/-- The counterpart of a letter in a table of letters; another character is its own. The fuel bounds the
search between `low` and `high`, which each step halves. -/
def counterpart (table : Array (Nat × Nat × Nat × Nat)) (c : Char) : (fuel low high : Nat) → Char
  | 0, _, _ => c
  | fuel + 1, low, high =>
    if low < high then
      let middle := (low + high) / 2
      match table[middle]? with
      | none => c
      | some (first, last, step, other) =>
        if c.toNat < first then counterpart table c fuel low middle
        else if last < c.toNat then counterpart table c fuel (middle + 1) high
        else if (c.toNat - first) % step = 0 then Char.ofNat (other + (c.toNat - first))
        else c
    else
      c

/-- A letter that has a case, unless it is skipped. -/
def isCased (c : Char) : Bool :=
  inRanges casedRanges c.toNat casedRanges.size 0 casedRanges.size

/-- A character that is skipped in a search for letters that have a case. -/
def isCaseIgnorable (c : Char) : Bool :=
  inRanges caseIgnorableRanges c.toNat caseIgnorableRanges.size 0 caseIgnorableRanges.size

/-- Whether the next character that counts has a case. -/
def meetsCased (cs : List Char) : Bool :=
  ((cs.dropWhile isCaseIgnorable).head?.map isCased).getD false

/-- The small letter of the capital sigma between two texts, of which the first one is in reverse. -/
def smallSigma (before after : List Char) : Char :=
  if meetsCased before && !meetsCased after then 'ς' else 'σ'

/-- The small letters of a text behind the characters `before`, which are in reverse. -/
def lowerBehind (before : List Char) : List Char → List Char
  | [] => []
  | c :: cs =>
    (if c = 'Σ' then [smallSigma before cs]
      else if c = 'İ' then ['i', '\u0307']
      else [counterpart capitals c capitals.size 0 capitals.size])
      ++ lowerBehind (c :: before) cs

/-- A text in small letters. -/
def lower (cs : List Char) : List Char :=
  lowerBehind [] cs

/-- The capitals of a character. -/
def upperChar (c : Char) : List Char :=
  match smallLigatures.lookup c.toNat with
  | some others => others.map Char.ofNat
  | none => [counterpart smallLetters c smallLetters.size 0 smallLetters.size]

/-- A text in capitals. -/
def upper (cs : List Char) : List Char :=
  cs.flatMap upperChar

/-- `lower` on strings. -/
def lowerString (s : String) : String :=
  .ofList (lower s.toList)

/-- `upper` on strings. -/
def upperString (s : String) : String :=
  .ofList (upper s.toList)

end ClusterPlan.Text
