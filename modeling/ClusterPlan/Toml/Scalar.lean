import ClusterPlan.Text.Decimal
import ClusterPlan.Value

/-!
# Scalars of settings files

Texts, numbers, dates and times as they are written in a settings file. Each reader takes the
characters that follow and gives the value and the rest, or `none` if nothing of its kind is there.
-/

namespace ClusterPlan.Toml

/-- What a reader gives. -/
abbrev Read (α : Type) := List Char → Option (α × List Char)

/-- A control character other than the tab. -/
def isControl (c : Char) : Bool :=
  (c.toNat < 32 && c != '\t') || c.toNat = 127

/-- Whether a text starts with the given one. -/
def startsWith (s : String) (cs : List Char) : Bool :=
  s.toList.isPrefixOf cs

/-! ## Texts -/

/-- The character that a letter behind a backslash stands for. -/
def escapeOf? : Char → Option Char
  | 'b' => some '\x08'
  | 't' => some '\t'
  | 'n' => some '\n'
  | 'f' => some '\x0c'
  | 'r' => some '\r'
  | '"' => some '"'
  | '\\' => some '\\'
  | _ => none

/-- A code point of `n` hexadecimal digits. -/
def codePoint (n : Nat) : Read Char := fun cs =>
  let ds := cs.take n
  if ds.length = n && ds.all fun d => (Text.digitOrLetter? d).any (· < 16) && d.toNat < 128 then
    let code := ((Text.readInBase? 16 ds).getD 0).toNat
    if code < 0xD800 || (0xE000 ≤ code && code < 0x110000) then some (Char.ofNat code, cs.drop n)
    else none
  else
    none

/-- Passes spaces and tabs. -/
def skipSpaces (cs : List Char) : List Char :=
  cs.dropWhile fun c => c = ' ' || c = '\t'

/-- Passes spaces, tabs and line feeds. -/
def skipLines (cs : List Char) : List Char :=
  cs.dropWhile fun c => c = ' ' || c = '\t' || c = '\n'

/-- What follows a backslash. In a text of several lines a backslash at the end of a line takes away
the white space up to the next character. -/
def escape (multiline : Bool) : Read (List Char)
  | [] => none
  | c :: cs =>
    if multiline && (c = ' ' || c = '\t' || c = '\n') then
      match skipSpaces (c :: cs) with
      | [] => some ([], [])
      | '\n' :: rest => some ([], skipLines rest)
      | _ => none
    else if c = 'u' then (codePoint 4 cs).map fun (x, rest) => ([x], rest)
    else if c = 'U' then (codePoint 8 cs).map fun (x, rest) => ([x], rest)
    else (escapeOf? c).map fun x => ([x], cs)

/-- The text up to the closing double quotes, with escapes. The fuel is the number of characters. -/
def basicText (multiline : Bool) : (fuel : Nat) → List Char → Read (List Char)
  | 0, _, _ => none
  | _ + 1, _, [] => none
  | fuel + 1, text, c :: cs =>
    if c = '"' then
      if !multiline then some (text, cs)
      else if startsWith "\"\"" cs then some (text, cs.drop 2)
      else basicText multiline fuel (text ++ [c]) cs
    else if c = '\\' then
      match escape multiline cs with
      | none => none
      | some (x, rest) => basicText multiline fuel (text ++ x) rest
    else if isControl c && !(multiline && c = '\n') then none
    else basicText multiline fuel (text ++ [c]) cs

/-- The text up to the closing single quote or quotes. -/
def literalText (multiline : Bool) : Read (List Char)
  | [] => none
  | c :: cs =>
    if c = '\'' && (!multiline || startsWith "''" cs) then
      some ([], if multiline then cs.drop 2 else cs)
    else if isControl c && !(multiline && c = '\n') then none
    else (literalText multiline cs).map fun (text, rest) => (c :: text, rest)

/-- Up to two quotes that come right behind three closing ones belong to the text. -/
def extraQuotes (quote : Char) : List Char → List Char × List Char
  | a :: b :: cs =>
    if a = quote then (if b = quote then ([a, b], cs) else ([a], b :: cs)) else ([], a :: b :: cs)
  | [a] => if a = quote then ([a], []) else ([], [a])
  | [] => ([], [])

/-- A text of several lines, behind its opening quotes. A line feed right there does not count. -/
def multilineText (quote : Char) : Read (List Char) := fun cs =>
  let cs := match cs with
    | '\n' :: cs => cs
    | cs => cs
  let read := if quote = '"' then basicText true (cs.length + 1) [] cs else literalText true cs
  read.map fun (text, rest) =>
    let (extra, rest) := extraQuotes quote rest
    (text ++ extra, rest)

/-- A text in quotes, of one line. -/
def lineText : Read (List Char)
  | '"' :: cs => basicText false (cs.length + 1) [] cs
  | '\'' :: cs => literalText false cs
  | _ => none

/-- A text in quotes. -/
def text : Read (List Char) := fun cs =>
  if startsWith "\"\"\"" cs then multilineText '"' (cs.drop 3)
  else if startsWith "'''" cs then multilineText '\'' (cs.drop 3)
  else lineText cs

/-! ## Numbers -/

/-- Digits with single underscores between them. -/
def digits (p : Char → Bool) : List Char → List Char × List Char
  | '_' :: c :: cs =>
    if p c then
      let (ds, rest) := digits p cs
      (c :: ds, rest)
    else ([], '_' :: c :: cs)
  | c :: cs =>
    if p c then
      let (ds, rest) := digits p cs
      (c :: ds, rest)
    else ([], c :: cs)
  | [] => ([], [])

/-- Digits with single underscores between them, at least one and none in front. -/
def someDigits (p : Char → Bool) : Read (List Char)
  | c :: cs =>
    if p c then
      let (ds, rest) := digits p cs
      some (c :: ds, rest)
    else none
  | [] => none

/-- A digit of a base. -/
def isDigitOf (base : Nat) (c : Char) : Bool :=
  c.toNat < 128 && (Text.digitOrLetter? c).any (· < base)

/-- A number in base two, eight or sixteen, behind its zero. -/
def based : Read Value
  | mark :: cs =>
    let base := if mark = 'x' then 16 else if mark = 'b' then 2 else if mark = 'o' then 8 else 0
    if base = 0 then none
    else
      (someDigits (isDigitOf base) cs).map fun (ds, rest) =>
        (.int ((Text.readInBase? base ds).getD 0), rest)
  | [] => none

/-- The whole part of a decimal number: a zero alone, or digits that do not start with one. -/
def wholePart : Read (List Char)
  | '0' :: cs => some (['0'], cs)
  | cs => someDigits Char.isDigit cs

/-- The digits behind a point, if there are any. -/
def fraction (cs : List Char) : List Char × List Char :=
  match cs with
  | '.' :: rest => (someDigits Char.isDigit rest).getD ([], cs)
  | cs => ([], cs)

/-- The digits of an exponent with their sign, if there are any. -/
def exponent (cs : List Char) : List Char × List Char :=
  match cs with
  | e :: rest =>
    if e = 'e' || e = 'E' then
      let (sign, ds) := match rest with
        | '-' :: ds => (['-'], ds)
        | '+' :: ds => ([], ds)
        | ds => ([], ds)
      match someDigits Char.isDigit ds with
      | some (ds, rest) => (sign ++ ds, rest)
      | none => ([], cs)
    else ([], cs)
  | [] => ([], cs)

/-- A whole number with its sign; it must not have too many digits. -/
def wholeNumber (negative : Bool) (ds : List Char) : Option Value :=
  if ds.length ≤ Text.digitLimit then
    some (.int (if negative then -(Text.ofDigits ds : Int) else Text.ofDigits ds))
  else none

/-- A decimal number. -/
def decimal : Read Value := fun cs => do
  let (negative, cs) := Text.splitSign cs
  let (whole, cs) ← wholePart cs
  let (fraction, cs) := fraction cs
  let (power, cs) := exponent cs
  if fraction.isEmpty && power.isEmpty then
    return (← wholeNumber negative whole, cs)
  let (down, power) := Text.splitSign power
  let exponent : Int := if down then -(Text.ofDigits power : Int) else Text.ofDigits power
  return (.float (.ofDecimal negative (Text.ofDigits (whole ++ fraction))
    (exponent - fraction.length)), cs)

/-- A number without digits. -/
def word : Read Value := fun cs =>
  let (negative, rest) := Text.splitSign cs
  if startsWith "inf" rest then some (.float (.infinity negative), rest.drop 3)
  else if startsWith "nan" rest then some (.float .nan, rest.drop 3)
  else none

/-- A number. -/
def number : Read Value := fun cs =>
  match cs with
  | '0' :: rest => ((based rest).or (decimal cs)).or (word cs)
  | cs => (decimal cs).or (word cs)

/-! ## Dates and times -/

/-- Exactly `n` digits, as a number. -/
def fixedDigits (n : Nat) : Read Nat := fun cs =>
  let ds := cs.take n
  if ds.length = n && ds.all Char.isDigit then some (Text.ofDigits ds, cs.drop n) else none

/-- Passes a character. -/
def pass (c : Char) (cs : List Char) : Option (List Char) :=
  if cs.head? = some c then some (cs.drop 1) else none

/-- A date: a year, a month and a day up to thirty-one. -/
def date : Read (Nat × Nat × Nat) := fun cs => do
  let (year, cs) ← fixedDigits 4 cs
  let (month, cs) ← fixedDigits 2 (← pass '-' cs)
  let (day, cs) ← fixedDigits 2 (← pass '-' cs)
  if 1 ≤ month && month ≤ 12 && 1 ≤ day && day ≤ 31 then some ((year, month, day), cs) else none

/-- A time of day; of a fraction six digits count. -/
def time : Read Time := fun cs => do
  let (hour, cs) ← fixedDigits 2 cs
  let (minute, cs) ← fixedDigits 2 (← pass ':' cs)
  let (second, cs) ← fixedDigits 2 (← pass ':' cs)
  let (fraction, cs) := match cs with
    | '.' :: rest =>
      let ds := rest.takeWhile Char.isDigit
      if ds.isEmpty then ([], cs) else (ds, rest.drop ds.length)
    | cs => ([], cs)
  if hour ≤ 23 && minute ≤ 59 && second ≤ 59 then
    some (⟨hour, minute, second, Text.ofDigits ((fraction ++ List.replicate 6 '0').take 6)⟩, cs)
  else
    none

/-- An offset from universal time, if there is one. -/
def offset (cs : List Char) : Option Offset × List Char :=
  let signed (negative : Bool) (rest : List Char) : Option (Option Offset × List Char) := do
    let (hour, rest) ← fixedDigits 2 rest
    let (minute, rest) ← fixedDigits 2 (← pass ':' rest)
    if hour ≤ 23 && minute ≤ 59 then
      let minutes : Int := (hour * 60 + minute : Nat)
      some (some ⟨if negative then -minutes else minutes⟩, rest)
    else
      none
  match cs with
  | 'Z' :: rest => (some ⟨0⟩, rest)
  | 'z' :: rest => (some ⟨0⟩, rest)
  | '+' :: rest => (signed false rest).getD (none, cs)
  | '-' :: rest => (signed true rest).getD (none, cs)
  | cs => (none, cs)

/-- The time of day behind a date, if there is one. -/
def clock (cs : List Char) : Option (Time × List Char) :=
  match cs with
  | c :: rest => if c = 'T' || c = 't' || c = ' ' then time rest else none
  | [] => none

/-- A date with or without a time; the day must be one of the calendar. -/
def moment (parts : Nat × Nat × Nat) : Read Value := fun cs =>
  let (year, month, day) := parts
  match Date.make year month day with
  | .error _ => none
  | .ok d =>
    match clock cs with
    | none => some (.moment (.date d), cs)
    | some (t, cs) =>
      let (o, cs) := offset cs
      some (.moment (.dateTime d t o), cs)

/-- A scalar that is not in quotes. -/
def bare : Read Value := fun cs =>
  if startsWith "true" cs then some (.bool true, cs.drop 4)
  else if startsWith "false" cs then some (.bool false, cs.drop 5)
  else
    match date cs with
    | some (parts, cs) => moment parts cs
    | none =>
      match time cs with
      | some (t, cs) => some (.moment (.time t), cs)
      | none => number cs

end ClusterPlan.Toml
