import ClusterPlan.Console.Expression.Numeral
import ClusterPlan.Text.Pieces
import ClusterPlan.Text.Printable
import ClusterPlan.Text.Word

/-!
# Tokens of an expression

The words, numerals, quoted texts and signs of a text. Between brackets a line break is a blank;
elsewhere it is a token, and so is a change of the indentation. The tokens end where the text does or
where one is malformed. A text that stops too early ends without a mark, which matters only to a reader
that gets so far.
-/

namespace ClusterPlan.Console.Expression

inductive TokenKind where
  /-- A word that is no keyword. -/
  | name
  | keyword
  | numeral
  | quoted
  | sign
  | lineEnd
  | indent
  | dedent
  /-- The end of the text. -/
  | finish
deriving DecidableEq, Repr

/-- A token with the line on which it begins and the number of brackets that are open behind it. It is the
`last` one if its bound is known only because the text ends there. -/
structure Token where
  kind : TokenKind
  text : List Char
  line : Nat
  depth : Nat
  last : Bool
deriving Repr

/-- An opening bracket and its line. -/
structure Bracket where
  sign : Char
  line : Nat
deriving Repr

/-- How the tokens of a text end. -/
inductive Ending where
  | complete
  /-- A token is malformed. -/
  | malformed (reason : String)
  /-- The text stops too early, with a bracket that is still open. -/
  | stopped (reason : String) (bracket : Option Bracket)
deriving Repr

/-- The words with a meaning of their own. -/
def keywords : List String :=
  ["False", "None", "True", "and", "as", "assert", "async", "await", "break", "class", "continue",
    "def", "del", "elif", "else", "except", "finally", "for", "from", "global", "if", "import", "in",
    "is", "lambda", "nonlocal", "not", "or", "pass", "raise", "return", "try", "while", "with", "yield"]

/-- The signs of several characters, longest first. -/
def longSigns : List (List Char) :=
  ["**=", "//=", "<<=", ">>=", "...", "!=", "%=", "&=", "**", "*=", "+=", "-=", "->", "//", "/=",
    ":=", "<<", "<=", "<>", "==", ">=", ">>", "@=", "^=", "|="].map String.toList

/-- The most brackets that may be open together. -/
def bracketLimit : Nat := 200

/-- The most indentations that may be open together, the first line's included. -/
def indentLimit : Nat := 100

/-- A place between two tokens: what follows, its line, the open brackets and the open indentations,
innermost first. An indentation is counted twice, with tabs of eight columns and of one. -/
structure Place where
  rest : List Char
  line : Nat := 1
  brackets : List Bracket := []
  indents : List (Nat × Nat) := [(0, 0)]

namespace Place

/-- The place behind a token, with `rest` in front of it. -/
def goTo (p : Place) (rest : List Char) : Place :=
  { p with rest, line := p.line + (p.rest.count '\n' - rest.count '\n') }

/-- A token at this place. -/
def token (p : Place) (kind : TokenKind) (text : List Char) (last : Bool := false) : Token :=
  ⟨kind, text, p.line, p.brackets.length, last⟩

/-- The end of a text that stops at this place. -/
def stop (p : Place) (reason : String) : Ending :=
  .stopped reason p.brackets.head?

/-- The end of a text without the tokens that the open brackets need. -/
def unfinished (p : Place) : Ending :=
  p.stop (match p.brackets with
    | [] => "unexpected EOF while parsing"
    | b :: _ => s!"'{b.sign}' was never closed")

/-- The place behind a line break that a backslash makes part of the line. -/
def joinLine (p : Place) : Except Ending Place :=
  match p.rest with
  | '\\' :: '\n' :: rest =>
    if rest.isEmpty then .error p.unfinished else .ok (p.goTo rest)
  | _ => .error (p.stop "unexpected character after line continuation character")

end Place

/-- A quoted text behind its opening quote, which stands `size` times; `seen` quotes lie behind. The rest of
the text is `ok` behind the closing quote, and an error where the text is broken off. -/
def closeQuoted (quote : Char) (size : Nat) : (seen : Nat) → List Char → Except (List Char) (List Char)
  | _, [] => .error []
  | _, '\\' :: cs =>
    match cs with
    | [] => .error []
    | _ :: cs => closeQuoted quote size 0 cs
  | seen, c :: cs =>
    if c == quote then
      if seen + 1 == size then .ok cs else closeQuoted quote size (seen + 1) cs
    else if c == '\n' && size == 1 then .error (c :: cs)
    else closeQuoted quote size 0 cs

/-- The quoted text that begins with the quote at the head of `cs`: how many quotes open it, and what
`closeQuoted` finds. -/
def quotedEnd : List Char → Nat × Except (List Char) (List Char)
  | q :: r :: s :: cs =>
    if q == r && q == s then (3, closeQuoted q 3 0 cs)
    else if q == r then (1, .ok (s :: cs))
    else (1, closeQuoted q 1 0 (r :: s :: cs))
  | [q, r] => (1, if q == r then .ok [] else closeQuoted q 1 0 [r])
  | cs => (1, .error (cs.drop 1))

/-- A quote. -/
def isQuote (c : Char) : Bool :=
  c == '\'' || c == '"'

/-- Whether a quoted text may be marked with the letter `c` behind the marks `marks`. -/
def isMark (marks : List Char) (c : Char) : Bool :=
  let excluded := match c with
    | 'b' => ['b', 'u', 'f']
    | 'u' => ['b', 'u', 'r', 'f']
    | 'r' => ['r', 'u']
    | 'f' => ['f', 'b', 'u']
    | _ => [c]
  ['b', 'u', 'r', 'f'].contains c && !excluded.any marks.contains

/-- What follows the marks of a quoted text, if the text begins with marks and a quote. -/
def dropMarks? (marks : List Char) : List Char → Option (List Char)
  | [] => none
  | c :: cs =>
    if isQuote c then some (c :: cs)
    else if isMark marks c.toLower then dropMarks? (c.toLower :: marks) cs
    else none

/-- The hexadecimal code of a character in capitals, of at least four digits. -/
def codePoint (c : Char) : String :=
  .ofList ((Text.hex 4 c.toNat).map Char.toUpper)

/-- What is wrong with a character that begins no token. -/
def strangeCharacter (c : Char) : String :=
  if Text.isPrintable c then s!"invalid character '{c}' (U+{codePoint c})"
  else s!"invalid non-printable character U+{codePoint c}"

/-- The bracket that closes another one. -/
def closing (c : Char) : Char :=
  if c == '(' then ')' else if c == '[' then ']' else '\x7d'

/-- The brackets that are open behind the sign `c`. -/
def bracketsBehind (p : Place) (c : Char) : Except String (List Bracket) :=
  if c == '(' || c == '[' || c == '\x7b' then
    if p.brackets.length < bracketLimit then .ok (⟨c, p.line⟩ :: p.brackets)
    else .error "too many nested parentheses"
  else if c == ')' || c == ']' || c == '\x7d' then
    match p.brackets with
    | [] => .error s!"unmatched '{c}'"
    | b :: bs =>
      if closing b.sign == c then .ok bs
      else
        let place := if b.line == p.line then "" else s!" on line {b.line}"
        .error s!"closing parenthesis '{c}' does not match opening parenthesis '{b.sign}'{place}"
  else if 0x20 ≤ c.toNat && c.toNat < 0x7F then .ok p.brackets
  else .error (strangeCharacter c)

/-- The token at a place with neither a blank nor a line break in front of it, and the place behind it. -/
def readToken (p : Place) : Except String (Token × Place) :=
  match p.rest with
  | [] => .ok (p.token .finish [], p)
  | c :: cs =>
    let take (kind : TokenKind) (rest : List Char) (isOpen : Bool := true) : Token × Place :=
      (p.token kind (p.rest.take (p.rest.length - rest.length)) (isOpen && rest.isEmpty), p.goTo rest)
    match dropMarks? [] p.rest with
    | some inside =>
      match quotedEnd inside with
      | (_, .ok rest) => .ok (take .quoted rest (inside.length == 2))
      | (size, .error rest) =>
        let kind := if size == 3 then "triple-quoted string" else "string"
        .error s!"unterminated {kind} literal (detected at line {(p.goTo rest).line})"
    | none =>
      if c.isDigit || (c == '.' && cs.head?.any (·.isDigit)) then do
        return take .numeral (← numeralEnd p.rest)
      else if isNameLike c then
        let word := p.rest.takeWhile isNameLike
        match Text.misfit? word with
        | some d => .error (strangeCharacter d)
        | none =>
          .ok (take (if keywords.contains (.ofList word) then .keyword else .name)
            (p.rest.drop word.length))
      else
        match longSigns.find? (·.isPrefixOf p.rest) with
        | some s => .ok (take .sign (p.rest.drop s.length) (s.length < 3))
        | none => do
          let behind := { p with brackets := ← bracketsBehind p c }
          return (behind.token .sign [c] cs.isEmpty, behind.goTo cs)

/-- The indentation of a line, in columns with tabs of eight and of one. Behind a backslash the first
indentation counts, unless there was none. -/
def indentation : (fuel : Nat) → (column narrow first : Nat) → Place →
    Except Ending (Nat × Nat × Place)
  | 0, column, narrow, _, p => .ok (column, narrow, p)
  | fuel + 1, column, narrow, first, p =>
    match p.rest with
    | ' ' :: rest => indentation fuel (column + 1) (narrow + 1) first { p with rest }
    | '\t' :: rest => indentation fuel ((column / 8 + 1) * 8) (narrow + 1) first { p with rest }
    | '\x0c' :: rest => indentation fuel 0 0 first { p with rest }
    | '\\' :: _ => do
      indentation fuel column narrow (if first == 0 then column else first) (← p.joinLine)
    | _ => .ok (if first == 0 then (column, narrow, p) else (first, first, p))

/-- The tokens for a change of the indentation, and the place behind them. -/
def changeIndent (p : Place) (column narrow : Nat) : Except Ending (List Token × Place) :=
  let tabs := p.stop "inconsistent use of tabs and spaces in indentation"
  match p.indents with
  | [] => .ok ([], p)
  | (open₁, open₂) :: _ =>
    if column == open₁ then
      if narrow == open₂ then .ok ([], p) else .error tabs
    else if open₁ < column then
      if indentLimit ≤ p.indents.length then .error (p.stop "too many levels of indentation")
      else if narrow ≤ open₂ then .error tabs
      else .ok ([p.token .indent []], { p with indents := (column, narrow) :: p.indents })
    else
      let indents := p.indents.dropWhile (column < ·.1)
      let closed := p.indents.length - indents.length
      match indents with
      | (kept₁, kept₂) :: _ =>
        if column != kept₁ then
          .error (p.stop "unindent does not match any outer indentation level")
        else if narrow != kept₂ then .error tabs
        else .ok (List.replicate closed (p.token .dedent []), { p with indents })
      | [] => .error (p.stop "unindent does not match any outer indentation level")

/-- The tokens from a place on. The fuel bounds the tokens, blanks and comments that are left. -/
def tokensFrom : (fuel : Nat) → (startsLine : Bool) → Place → List Token × Ending
  | 0, _, _ => ([], .complete)
  | fuel + 1, true, p =>
    match indentation (p.rest.length + 1) 0 0 0 p with
    | .error ending => ([], ending)
    | .ok (column, narrow, q) =>
      if q.rest.head?.any fun c => c == '#' || c == '\n' then
        let rest := q.rest.dropWhile (· != '\n')
        tokensFrom fuel (!rest.isEmpty) (q.goTo (rest.drop 1))
      else
        match changeIndent q column narrow with
        | .error ending => ([], ending)
        | .ok (tokens, q) =>
          let (others, ending) := tokensFrom fuel false q
          (tokens ++ others, ending)
  | fuel + 1, false, p =>
    match p.rest with
    | [] => if p.brackets.isEmpty then ([p.token .finish []], .complete) else ([], p.unfinished)
    | ' ' :: rest | '\t' :: rest | '\x0c' :: rest => tokensFrom fuel false { p with rest }
    | '#' :: rest => tokensFrom fuel false (p.goTo (rest.dropWhile (· != '\n')))
    | '\n' :: rest =>
      if p.brackets.isEmpty then
        let (others, ending) := tokensFrom fuel true (p.goTo rest)
        (p.token .lineEnd [] :: others, ending)
      else
        tokensFrom fuel false (p.goTo rest)
    | '\\' :: _ =>
      match p.joinLine with
      | .error ending => ([], ending)
      | .ok q => tokensFrom fuel false q
    | _ =>
      match readToken p with
      | .error reason => ([], .malformed reason)
      | .ok (token, q) =>
        let (others, ending) := tokensFrom fuel false q
        (token :: others, ending)

/-- The tokens of a text and how they end. -/
def tokens (text : List Char) : List Token × Ending :=
  let text := Text.unifyLineEnds text
  tokensFrom (2 * text.length + 2) true { rest := text }

end ClusterPlan.Console.Expression
