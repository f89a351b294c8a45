import ClusterPlan.Console.Expression.Grammar
import ClusterPlan.Console.Marked
import ClusterPlan.Console.Picture
import ClusterPlan.Console.Style

/-!
# Markup

Text with tags in square brackets that switch styles on and off, and with names of pictures between
colons. A tag begins with a small letter or one of the signs `#`, `/` and `@`; other brackets are plain.
A backslash in front of a tag makes it plain text, and two of them are one. `/name` closes the last open
tag of that name and `/` the last one that is open; both fail when there is none. A tag that begins with
`@` names a handler, whose parameters are read when the tag is closed. What remains is the plain text
with the spans between the tags.
-/

namespace ClusterPlan.Console

/-! ## Handlers

The parameters of a handler are a literal, or the name of a function with literals between parentheses.
Nothing is called, but the parameters have to be well formed. -/

/-- The expression that the parameters of a handler hold: what stands between parentheses behind a name,
an empty pair of them if there is only a name, or else the whole text. -/
def handlerExpression (text : List Char) : List Char :=
  match text.dropWhile fun c => Text.isWordChar c || c == '.' with
  | [] => ['(', ')']
  | rest =>
    if rest.head? == some '(' && rest.length ≥ 2 && rest.getLast? == some ')' && !rest.contains '\n'
    then rest
    else text

/-- Checks the parameters of a handler. -/
def checkHandler (parameters : List Char) : Except Failure Unit :=
  if parameters.isEmpty then .ok ()
  else
    let expression := handlerExpression (Text.trim parameters)
    match Expression.readExpression expression with
    | .error reason =>
      .error (.handlerSyntax (.ofList expression) (.ofList parameters) reason)
    | .ok e =>
      match e.value with
      | .ok () => .ok ()
      | .error reason? =>
        .error (.handlerValue (.ofList parameters) (reason?.getD "malformed node or string"))

/-! ## Tags -/

/-- A character that a tag begins with. -/
def isTagStart (c : Char) : Bool :=
  ('a' ≤ c && c ≤ 'z') || c == '#' || c == '/' || c == '@'

/-- The inside of the tag that a text begins with, and what follows the tag. -/
def tag? : List Char → Option (List Char × List Char)
  | '[' :: c :: cs =>
    if isTagStart c then
      match cs.dropWhile fun d => d != ']' && d != '[' with
      | ']' :: rest => some (c :: cs.takeWhile fun d => d != ']' && d != '[', rest)
      | _ => none
    else
      none
  | _ => none

/-- A piece of markup: plain text, or the inside of a tag with its position. -/
inductive MarkupPiece where
  | plain (text : List Char)
  | tag (inside : List Char) (position : Nat)

/-- A plain piece unless it is empty. -/
def plainPiece (cs : List Char) : List MarkupPiece :=
  if cs.isEmpty then [] else [.plain cs]

/-- Cuts markup into pieces. The fuel is the length of the text and one more; the plain characters since
the last piece are kept in reverse. -/
def markupPieces : (fuel position : Nat) → (plain : List Char) → List Char → List MarkupPiece
  | 0, _, plain, cs => plainPiece (plain.reverse ++ cs)
  | _ + 1, _, plain, [] => plainPiece plain.reverse
  | fuel + 1, position, plain, c :: cs =>
    let slashes := ((c :: cs).takeWhile (· == '\\')).length
    match tag? ((c :: cs).drop slashes) with
    | some (inside, rest) =>
      let next := position + slashes + inside.length + 2
      plainPiece plain.reverse ++ plainPiece (List.replicate (slashes / 2) '\\')
        ++ [if slashes % 2 = 1 then .plain ('[' :: inside ++ [']'])
            else .tag inside (position + slashes)]
        ++ markupPieces fuel next [] rest
    | none =>
      let taken := max slashes 1
      markupPieces fuel (position + taken) (((c :: cs).take taken).reverse ++ plain)
        ((c :: cs).drop taken)

/-- Brackets without the backslash in front of them. -/
def dropBracketEscapes : List Char → List Char
  | [] => []
  | '\\' :: '[' :: cs => '[' :: dropBracketEscapes cs
  | c :: cs => c :: dropBracketEscapes cs

/-- The characters that a terminal would act on instead of showing them. -/
def isControl (c : Char) : Bool :=
  c.toNat == 7 || c.toNat == 8 || (11 ≤ c.toNat && c.toNat ≤ 13)

/-- The text without control characters. -/
def withoutControls (cs : List Char) : List Char :=
  cs.filter (!isControl ·)

/-- An open tag: where its span begins, its name and its parameters. -/
structure OpenTag where
  first : Nat
  name : String
  parameters : Option (List Char)

/-- The span of an open tag that ends at `last`. -/
def OpenTag.span (tag : OpenTag) (last : Nat) : Span :=
  ⟨tag.first, last, some (match tag.parameters with
    | none => tag.name.toList
    | some parameters => tag.name.toList ++ ' ' :: parameters)⟩

/-- The span of a tag that is closed at `last`. -/
def OpenTag.close (tag : OpenTag) (last : Nat) : Except Failure Span :=
  if tag.name.startsWith "@" then do
    checkHandler (tag.parameters.getD [])
    return ⟨tag.first, last, none⟩
  else
    return tag.span last

/-- What has been read of a markup: the text, the spans that are closed, the last one first, and the
open tags, innermost first. -/
structure MarkupState where
  text : List Char := []
  closed : List Span := []
  opened : List OpenTag := []

namespace MarkupState

/-- Opens or closes a tag. -/
def tag (state : MarkupState) (inside : List Char) (position : Nat) : Except Failure MarkupState :=
  let last := state.text.length
  let name := inside.takeWhile (· != '=')
  match name with
  | '/' :: name =>
    if (Text.trim name).isEmpty then
      match state.opened with
      | [] => .error (.nothingToClose position)
      | t :: opened => do
        return { state with closed := (← t.close last) :: state.closed, opened }
    else do
      let name ← styleName (Text.trim name)
      match state.opened.find? (·.name == name) with
      | some t =>
        return { state with
          closed := (← t.close last) :: state.closed
          opened := state.opened.eraseP (·.name == name) }
      | none => throw (.closingTag (.ofList ('[' :: inside ++ [']'])) position)
  | name => do
    let parameters := if inside.contains '=' then some (inside.drop (name.length + 1)) else none
    return { state with opened := ⟨last, ← styleName name, parameters⟩ :: state.opened }

/-- Reads a piece of markup. -/
def read (state : MarkupState) : MarkupPiece → Except Failure MarkupState
  | .plain cs =>
    .ok { state with
      text := state.text ++ withoutControls (withPictures (dropBracketEscapes cs)) }
  | .tag inside position => state.tag inside position

/-- The marked text, with the spans of tags that were left open up to its end. The spans stand in the
order in which they begin, and of those that begin together the one that was closed last is first. -/
def marked (state : MarkupState) : Marked where
  text := state.text
  spans := ((state.opened.reverse.map (·.span state.text.length)) ++ state.closed).mergeSort
    fun s t => s.first ≤ t.first

end MarkupState

/-- The marked text of a markup. -/
def readMarkup (cs : List Char) : Except Failure Marked := do
  return ((← (markupPieces (cs.length + 1) 0 [] cs).foldlM MarkupState.read {})).marked

end ClusterPlan.Console
