import ClusterPlan.Console.Picture.Names
import ClusterPlan.Text.Case
import ClusterPlan.Text.Pieces

/-!
# Pictures by name

A picture can be written as its name between colons. The name may end in a dash and a style, which asks
for the picture as a text character or in colours. A name that no picture has is left as it is.
-/

namespace ClusterPlan.Console

/-- Every other item of a list, paired with the item after it. -/
def pairs {α : Type} : List α → List (α × α)
  | a :: b :: rest => (a, b) :: pairs rest
  | _ => []

/-- The pictures by name. -/
def pictures : List (List Char × List Char) :=
  pairs (Text.words pictureTable.toList)

/-- The picture of a name in letters of any case. -/
def picture? (name : List Char) : Option (List Char) :=
  pictures.lookup (Text.lower name)

/-- How a picture is to be shown. -/
inductive PictureStyle where
  | text
  | colour

/-- The mark behind a picture that asks for a style. -/
def PictureStyle.mark : PictureStyle → Char
  | text => '\uFE0E'
  | colour => '\uFE0F'

/-- A name between colons. -/
structure PictureCode where
  name : List Char
  style : Option PictureStyle
  /-- The code as it was written, without the first colon. -/
  written : List Char

/-- Reads a code behind its first colon, and returns what follows it. The characters of the name that
were read are kept in reverse. -/
def pictureCode? (name : List Char) : List Char → Option (PictureCode × List Char)
  | [] => none
  | '-' :: 't' :: 'e' :: 'x' :: 't' :: ':' :: rest =>
    some (⟨name.reverse, some .text, name.reverse ++ "-text:".toList⟩, rest)
  | '-' :: 'e' :: 'm' :: 'o' :: 'j' :: 'i' :: ':' :: rest =>
    some (⟨name.reverse, some .colour, name.reverse ++ "-emoji:".toList⟩, rest)
  | ':' :: rest => some (⟨name.reverse, none, name.reverse ++ [':']⟩, rest)
  | c :: cs => if Text.isBlank c then none else pictureCode? (c :: name) cs

/-- What a code stands for. -/
def PictureCode.shown (code : PictureCode) : List Char :=
  match picture? code.name with
  | some glyph => glyph ++ (code.style.map PictureStyle.mark).toList
  | none => ':' :: code.written

/-- Puts pictures in the place of their codes. The length of the text is fuel enough. -/
def putPictures : (fuel : Nat) → List Char → List Char
  | 0, cs => cs
  | _ + 1, [] => []
  | fuel + 1, ':' :: cs =>
    match pictureCode? [] cs with
    | some (code, rest) => code.shown ++ putPictures fuel rest
    | none => ':' :: putPictures fuel cs
  | fuel + 1, c :: cs => c :: putPictures fuel cs

/-- The text with pictures in the place of their codes. -/
def withPictures (cs : List Char) : List Char :=
  putPictures cs.length cs

end ClusterPlan.Console
