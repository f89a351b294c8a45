import ClusterPlan.Console.Expression.Token
import ClusterPlan.Text.CharacterName

/-!
# Quoted texts of an expression

Quoted texts side by side are one text, of characters or of bytes. A backslash begins an escape unless the
text is marked as raw, and some escapes need digits or a name behind them. A text that is marked with `f`
holds expressions between braces, which are checked as they stand; twice the same brace is a plain one.
-/

namespace ClusterPlan.Console.Expression

/-- The number of hexadecimal digits that an escape needs, by its letter. -/
def escapeDigits? (c : Char) : Option Nat :=
  if c == 'x' then some 2 else if c == 'u' then some 4 else if c == 'U' then some 8 else none

/-- What is wrong with the escape between the positions `first` and `past`. -/
def badEscape (first past : Nat) (reason : String) : String :=
  s!"(unicode error) 'unicodeescape' codec can't decode bytes in position {first}-{past - 1}: {reason}"

/-- How many positions a character takes; one beyond ASCII takes those of its longest escape. -/
def escapedWidth (c : Char) : Nat :=
  if c.toNat < 128 then 1 else 10

/-- How many positions a text takes. A backslash in front of a character beyond ASCII is escaped, too. -/
def escapedLength : List Char → Nat
  | [] => 0
  | '\\' :: c :: cs => (if c.toNat < 128 then 2 else 16) + escapedLength cs
  | c :: cs => escapedWidth c + escapedLength cs

/-- What is wrong with an escape by name at the position `first`, with `cs` behind it. -/
def namedEscapeFault? (first : Nat) (cs : List Char) : Option String :=
  let malformed := "malformed \\N character escape"
  match cs with
  | '\x7b' :: cs =>
    let name := cs.takeWhile (· != '\x7d')
    let past := first + 3 + escapedLength name
    if name.length == cs.length || name.isEmpty then some (badEscape first past malformed)
    else if Text.isCharacterName name then none
    else some (badEscape first (past + 1) "unknown Unicode character name")
  | _ => some (badEscape first (first + 2) malformed)

/-- What is wrong with the first bad escape of a text of characters. -/
def escapeFault? : (position : Nat) → List Char → Option String
  | _, [] => none
  | position, '\\' :: c :: cs =>
    if 128 ≤ c.toNat then escapeFault? (position + 16) cs
    else if c == 'N' then (namedEscapeFault? position cs).or (escapeFault? (position + 2) cs)
    else match escapeDigits? c with
      | none => escapeFault? (position + 2) cs
      | some n =>
        let digits := (cs.take n).takeWhile isHexDigit
        let past := position + 2 + digits.length
        if digits.length < n then
          let shape := String.ofList (c :: List.replicate n 'X')
          some (badEscape position past s!"truncated \\{shape} escape")
        else if 0x10FFFF < digitsValue 16 digits then
          some (badEscape position past "illegal Unicode character")
        else escapeFault? (position + 2) cs
  | position, c :: cs => escapeFault? (position + escapedWidth c) cs

/-- What is wrong with the first bad escape of a text of bytes. -/
def byteEscapeFault? : (position : Nat) → List Char → Option String
  | position, '\\' :: c :: cs =>
    if c == 'x' && ((cs.take 2).takeWhile isHexDigit).length < 2 then
      some s!"(value error) invalid \\x escape at position {position}"
    else byteEscapeFault? (position + 2) cs
  | position, _ :: cs => byteEscapeFault? (position + 1) cs
  | _, [] => none

/-- A quoted text without its marks and quotes. -/
structure Quoted where
  bytes : Bool
  raw : Bool
  interpolated : Bool
  text : List Char

/-- Reads the token of a quoted text. -/
def Quoted.ofToken (token : List Char) : Quoted :=
  let marks := (token.takeWhile (!isQuote ·)).map Char.toLower
  let inside := token.drop marks.length
  let size := (quotedEnd inside).1
  ⟨marks.contains 'b', marks.contains 'r', marks.contains 'f',
    (inside.drop size).take (inside.length - 2 * size)⟩

/-- Plain text up to the next brace that matters. The result is the plain text, whether a brace that
stands twice ended it, and the rest. Within a `nested` text braces do not stand twice. -/
def plainPart (raw nested : Bool) : (fuel : Nat) → (plain : List Char) → List Char →
    Except String (List Char × Bool × List Char)
  | 0, plain, cs => .ok (plain.reverse, false, cs)
  | _ + 1, plain, [] => .ok (plain.reverse, false, [])
  | fuel + 1, plain, c :: cs =>
    let brace (plain : List Char) (c : Char) (cs : List Char) :=
      if c != '\x7b' && c != '\x7d' then plainPart raw nested fuel (c :: plain) cs
      else if nested then .ok (plain.reverse, false, c :: cs)
      else if cs.head? == some c then .ok ((c :: plain).reverse, true, cs.drop 1)
      else if c == '\x7d' then .error "f-string: single '\x7d' is not allowed"
      else .ok (plain.reverse, false, c :: cs)
    if raw || c != '\\' then brace plain c cs
    else match cs with
      | [] => plainPart raw nested fuel (c :: plain) []
      | 'N' :: '\x7b' :: cs =>
        let name := cs.takeWhile (· != '\x7d')
        let skipped := cs.take (name.length + 1)
        plainPart raw nested fuel (skipped.reverse ++ '\x7b' :: 'N' :: c :: plain)
          (cs.drop (name.length + 1))
      | 'N' :: d :: cs => plainPart raw nested fuel (d :: 'N' :: c :: plain) cs
      | d :: cs => brace (c :: plain) d cs

/-- Where the expression of a field ends, read from a place in it: `quote` is the quote that is open and how
many times it stands, and `brackets` are the brackets that are open. -/
def fieldEnd : (fuel : Nat) → (quote : Option (Char × Nat)) → (brackets : List Char) → List Char →
    Except String (List Char)
  | 0, _, _, cs => .ok cs
  | _ + 1, some _, _, [] => .error "f-string: unterminated string"
  | _ + 1, none, b :: _, [] => .error s!"f-string: unmatched '{b}'"
  | _ + 1, none, [], [] => .error "f-string: expecting '\x7d'"
  | fuel + 1, quote, brackets, c :: cs =>
    if c == '\\' then .error "f-string expression part cannot include a backslash"
    else match quote with
      | some (q, size) =>
        if c == q && size == 1 then fieldEnd fuel none brackets cs
        else if c == q && cs.take 2 == [q, q] then fieldEnd fuel none brackets (cs.drop 2)
        else fieldEnd fuel quote brackets cs
      | none =>
        if isQuote c then
          if cs.take 2 == [c, c] then fieldEnd fuel (some (c, 3)) brackets (cs.drop 2)
          else fieldEnd fuel (some (c, 1)) brackets cs
        else if c == '[' || c == '\x7b' || c == '(' then
          if bracketLimit ≤ brackets.length then .error "f-string: too many nested parenthesis"
          else fieldEnd fuel none (c :: brackets) cs
        else if c == '#' then .error "f-string expression part cannot include '#'"
        else if brackets.isEmpty && ['!', ':', '\x7d', '=', '<', '>'].contains c then
          if cs.head? == some '=' && ['!', '=', '<', '>'].contains c then
            fieldEnd fuel none [] (cs.drop 1)
          else if c == '<' || c == '>' then fieldEnd fuel none [] cs
          else .ok (c :: cs)
        else if c == ']' || c == '\x7d' || c == ')' then
          match brackets with
          | [] => .error s!"f-string: unmatched '{c}'"
          | b :: brackets =>
            if closing b == c then fieldEnd fuel none brackets cs
            else .error
              s!"f-string: closing parenthesis '{c}' does not match opening parenthesis '{b}'"
        else fieldEnd fuel none brackets cs

/-- A blank inside an expression. -/
def isInnerBlank (c : Char) : Bool :=
  c == ' ' || c == '\t' || c == '\n' || c == '\x0c'

/-- What follows the conversion of a field, which may be missing. -/
def conversionEnd : List Char → Except String (List Char)
  | ['!'] => .error "f-string: expecting '\x7d'"
  | '!' :: c :: cs =>
    if ['s', 'r', 'a'].contains c then .ok cs
    else .error "f-string: invalid conversion character: expected 's', 'r', or 'a'"
  | cs => .ok cs

/-- Checks a text with expressions between braces, and gives back what follows it. `check` says what is
wrong with an expression, and `level` counts the fields that the text is part of. -/
def interpolationEnd (check : List Char → Except String Unit) (raw : Bool) :
    (fuel level : Nat) → List Char → Except String (List Char)
  | 0, _, cs => .ok cs
  | fuel + 1, level, cs => do
    let (plain, doubled, rest) ← plainPart raw (level != 0) (cs.length + 1) [] cs
    if !raw then
      match escapeFault? 0 plain with
      | some reason => throw reason
      | none => pure ()
    match rest with
    | '\x7b' :: rest =>
      if doubled then interpolationEnd check raw fuel level ('\x7b' :: rest) else do
      if 2 ≤ level then throw "f-string: expressions nested too deeply"
      let past ← fieldEnd (rest.length + 1) none [] rest
      let inside := rest.take (rest.length - past.length)
      if inside.all isInnerBlank then
        throw (match past.head? with
          | some '\x7d' | none => "f-string: empty expression not allowed"
          | some c => s!"f-string: expression required before '{c}'")
      check ('(' :: inside ++ [')'])
      let past := if past.head? == some '=' then (past.drop 1).dropWhile Text.isNumeralBlank else past
      let past ← conversionEnd past
      let past ← match past with
        | ':' :: spec => interpolationEnd check raw fuel (level + 1) spec
        | past => pure past
      match past with
      | '\x7d' :: rest => interpolationEnd check raw fuel level rest
      | _ => throw "f-string: expecting '\x7d'"
    | rest =>
      if doubled then interpolationEnd check raw fuel level rest
      else if level != 0 && rest.head? != some '\x7d' then throw "f-string: expecting '\x7d'"
      else return rest

/-- Checks one of the quoted texts that stand side by side; `bytes` tells of which kind the others are. -/
def Quoted.check (check : List Char → Except String Unit) (bytes : Bool) (q : Quoted) :
    Except String Unit := do
  let fault? :=
    if q.interpolated then none
    else if q.bytes then
      if q.text.any (128 ≤ ·.toNat) then some "bytes can only contain ASCII literal characters"
      else if q.raw then none
      else byteEscapeFault? 0 q.text
    else if q.raw then none
    else escapeFault? 0 q.text
  match fault? with
  | some reason => throw reason
  | none => pure ()
  if q.bytes != bytes then throw "cannot mix bytes and nonbytes literals"
  if q.interpolated then discard (interpolationEnd check q.raw (q.text.length + 1) 0 q.text)

end ClusterPlan.Console.Expression
