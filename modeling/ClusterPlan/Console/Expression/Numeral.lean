import ClusterPlan.Failure
import ClusterPlan.Text.Numeral

/-!
# Numerals of an expression

A numeral is decimal, with an optional fraction and exponent, or hexadecimal, octal or binary behind
`0x`, `0o` and `0b`. An underscore may stand between two digits, and a `j` behind a decimal numeral makes
it imaginary. A numeral must not run into a word, except into those that join expressions.
-/

namespace ClusterPlan.Console.Expression

/-- A character that a name may hold, as far as the bounds of tokens are concerned: a letter, a digit, an
underscore or a character beyond ASCII. -/
def isNameLike (c : Char) : Bool :=
  c.isAlphanum || c == '_' || 128 ≤ c.toNat

/-- Whether a text begins with a word that may follow a numeral without a blank. After the shortest of
them, `if`, `in` and `is`, the word need not end. -/
def joins (cs : List Char) : Bool :=
  ["if", "in", "is"].any (·.toList.isPrefixOf cs) ||
    ["and", "else", "for", "not", "or"].any fun w =>
      w.toList.isPrefixOf cs && !(cs.drop w.length).head?.any isNameLike

/-- What follows a numeral, if it may: no word but those that join expressions, though a character beyond
ASCII is a matter for the next token. -/
def endNumeral (kind : String) (cs : List Char) : Except String (List Char) :=
  if (cs.head?.any fun c => isNameLike c && c.toNat < 128) && !joins cs then
    .error s!"invalid {kind} literal"
  else
    .ok cs

/-- What follows a run of decimal digits, of which the first one lies behind. -/
def digitsEnd : List Char → Except String (List Char)
  | [] => .ok []
  | '_' :: c :: cs => if c.isDigit then digitsEnd cs else .error "invalid decimal literal"
  | c :: cs =>
    if c.isDigit then digitsEnd cs
    else if c == '_' then .error "invalid decimal literal"
    else .ok (c :: cs)

/-- What follows the digits of a numeral that are `valid`. A digit has to come next if one is `needed`. -/
def radixEnd (kind : String) (valid : Char → Bool) : (needed : Bool) → List Char →
    Except String (List Char)
  | needed, [] => if needed then .error s!"invalid {kind} literal" else .ok []
  | needed, c :: cs =>
    if valid c then radixEnd kind valid false cs
    else if c == '_' && !needed then radixEnd kind valid true cs
    else if c.isDigit then .error s!"invalid digit '{c}' in {kind} literal"
    else if needed then .error s!"invalid {kind} literal"
    else endNumeral kind (c :: cs)

/-- `radixEnd` behind the letter that names the base, which an underscore may follow. -/
def radixStart (kind : String) (valid : Char → Bool) : List Char → Except String (List Char)
  | '_' :: cs | cs => radixEnd kind valid true cs

/-- What follows the digits of a decimal numeral. -/
def closeDecimal : List Char → Except String (List Char)
  | 'j' :: cs | 'J' :: cs => endNumeral "imaginary" cs
  | cs => endNumeral "decimal" cs

/-- What follows the exponent of a decimal numeral, which may be missing. -/
def exponentEnd : List Char → Except String (List Char)
  | e :: s :: cs =>
    if e != 'e' && e != 'E' then closeDecimal (e :: s :: cs)
    else if s == '+' || s == '-' then
      if cs.head?.any (·.isDigit) then digitsEnd cs >>= closeDecimal
      else .error "invalid decimal literal"
    else if s.isDigit then digitsEnd cs >>= closeDecimal
    else endNumeral "decimal" (e :: s :: cs)
  | cs => closeDecimal cs

/-- What follows the fraction of a decimal numeral, of which the point lies behind. -/
def fractionEnd (cs : List Char) : Except String (List Char) :=
  if cs.head?.any (·.isDigit) then digitsEnd cs >>= exponentEnd else exponentEnd cs

/-- What follows the zeros that a numeral begins with. -/
def zerosEnd : List Char → Except String (List Char)
  | '0' :: cs => zerosEnd cs
  | '_' :: c :: cs =>
    if c == '0' then zerosEnd cs
    else if c.isDigit then .ok (c :: cs)
    else .error "invalid decimal literal"
  | ['_'] => .error "invalid decimal literal"
  | cs => .ok cs

/-- What follows a decimal numeral that begins with zeros, without those. -/
def zeroNumeralEnd (cs : List Char) : Except String (List Char) := do
  let long := cs.head?.any (·.isDigit)
  match ← if long then digitsEnd cs else .ok cs with
  | '.' :: rest => fractionEnd rest
  | rest =>
    if rest.head?.any fun c => c == 'e' || c == 'E' || c == 'j' || c == 'J' then exponentEnd rest
    else if long then
      throw "leading zeros in decimal integer literals are not permitted; use an 0o prefix for octal integers"
    else endNumeral "decimal" rest

/-- A hexadecimal digit. -/
def isHexDigit (c : Char) : Bool :=
  c.isDigit || ('a' ≤ c && c ≤ 'f') || ('A' ≤ c && c ≤ 'F')

/-- What follows the numeral that a text begins with. -/
def numeralEnd : List Char → Except String (List Char)
  | '.' :: cs => fractionEnd cs
  | '0' :: 'x' :: cs | '0' :: 'X' :: cs => radixStart "hexadecimal" isHexDigit cs
  | '0' :: 'o' :: cs | '0' :: 'O' :: cs => radixStart "octal" (fun c => '0' ≤ c && c ≤ '7') cs
  | '0' :: 'b' :: cs | '0' :: 'B' :: cs => radixStart "binary" (fun c => c == '0' || c == '1') cs
  | '0' :: cs => zerosEnd cs >>= zeroNumeralEnd
  | cs => do
    match ← digitsEnd cs with
    | '.' :: rest => fractionEnd rest
    | rest => exponentEnd rest

/-- The value of a numeral, as far as sums need it. -/
inductive Quantity where
  | integer (n : Nat)
  | real
  | imaginary

/-- The value of hexadecimal digits, the digits of a smaller base included. -/
def digitsValue (base : Nat) (cs : List Char) : Nat :=
  cs.foldl (fun n c => n * base + (if c.isDigit then c.toNat - 48 else c.toLower.toNat - 87)) 0

/-- Reads a numeral. A decimal numeral for an integer must not have too many digits. -/
def readNumeral (numeral : List Char) : Except String Quantity :=
  match (numeral.filter (· != '_')) with
  | '0' :: 'x' :: cs | '0' :: 'X' :: cs => .ok (.integer (digitsValue 16 cs))
  | '0' :: 'o' :: cs | '0' :: 'O' :: cs => .ok (.integer (digitsValue 8 cs))
  | '0' :: 'b' :: cs | '0' :: 'B' :: cs => .ok (.integer (digitsValue 2 cs))
  | cs =>
    if cs.contains 'j' || cs.contains 'J' then .ok .imaginary
    else if !cs.all (·.isDigit) then .ok .real
    else if cs.length > Text.digitLimit && cs.head? != some '0' then
      .error ((Failure.numeralTooLong cs.length).message
        ++ " - Consider hexadecimal for huge integer literals to avoid decimal conversion limits.")
    else .ok (.integer (digitsValue 10 cs))

end ClusterPlan.Console.Expression
