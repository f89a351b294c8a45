import ClusterPlan.Binary64.Basic
import ClusterPlan.Text.Numeral

/-!
# Decimal numbers

Reading numbers with a decimal point, an exponent or both, and whole numbers in other bases. Digits may
be of any script.
-/

namespace ClusterPlan.Text

/-- The exponent of a number, or zero if there is none. -/
def readExponent? : List Char → Option Int
  | [] => some 0
  | e :: cs =>
    let (negative, ds) := splitSign cs
    if (e = 'e' || e = 'E') && !ds.isEmpty && ds.all isDigit then
      some (if negative then -(ofDigits ds : Int) else ofDigits ds)
    else
      none

/-- The words for numbers that have no digits, in lower case. -/
def floatWord? (word : String) : Option Binary64 :=
  if word = "inf" || word = "infinity" then some (.infinity false)
  else if word = "nan" then some .nan
  else none

/-- Reads a number with or without a sign, a point and an exponent. -/
def readFloat? (cs : List Char) : Option Binary64 :=
  let (negative, cs) := splitSign (trimNumeral cs)
  match floatWord? (.ofList (cs.map Char.toLower)) with
  | some x => some (if negative then x.neg else x)
  | none =>
    let whole := cs.takeWhile isDigit
    let rest := cs.dropWhile isDigit
    let (fraction, rest) := match rest with
      | '.' :: rest => (rest.takeWhile isDigit, rest.dropWhile isDigit)
      | rest => ([], rest)
    if whole.isEmpty && fraction.isEmpty then none
    else
      (readExponent? rest).map fun e =>
        .ofDecimal negative (ofDigits (whole ++ fraction)) (e - fraction.length)

/-- The value of a digit in bases up to thirty-six. -/
def digitOrLetter? (c : Char) : Option Nat :=
  if c.isAlpha then some (c.toLower.toNat - 87) else digit? c

/-- The letter that marks a base behind a zero. -/
def baseMark? : Nat → Option Char
  | 2 => some 'b'
  | 8 => some 'o'
  | 16 => some 'x'
  | _ => none

/-- Reads a whole number in a base, with or without a sign and the mark of the base. -/
def readInBase? (base : Nat) (cs : List Char) : Option Int :=
  let (negative, cs) := splitSign (trimNumeral cs)
  let ds := match cs with
    | '0' :: mark :: ds => if baseMark? base = some mark.toLower then ds else cs
    | cs => cs
  match ds.mapM fun d => (digitOrLetter? d).filter (· < base) with
  | some (v :: vs) =>
    let n : Nat := (v :: vs).foldl (fun n d => base * n + d) 0
    some (if negative then -(n : Int) else n)
  | _ => none

end ClusterPlan.Text
