import ClusterPlan.Failure
import ClusterPlan.Text.Reader

/-!
# The characters of a document

A document is read from a file as far as its value needs it. What can be had of its characters ends at the
end of the file, or before a part that is no text or holds a character that no document may hold; nobody
learns of that part as long as what stands before it decides how the reading ends.
-/

namespace ClusterPlan.Yaml

/-- Why the tokens of a document end early. -/
inductive Halt where
  /-- The document is malformed. -/
  | malformed
  /-- More characters are needed than can be had. -/
  | cut
deriving DecidableEq, Repr

/-- What scanning a part of a document gives. -/
abbrev Scanned (α : Type) := Except Halt α

def malformed {α : Type} : Scanned α := .error .malformed

/-- Why a document gives no value. -/
inductive Fault where
  /-- The document is malformed or holds something that no value stands for. -/
  | malformed
  /-- More characters are needed than can be had. -/
  | cut
  /-- A tag or a scalar of the document is impossible. -/
  | impossible (f : Failure)
deriving DecidableEq, Repr

def Halt.fault : Halt → Fault
  | malformed => .malformed
  | cut => .cut

/-- What reading a document or a part of it gives. -/
abbrev Result (α : Type) := Except Fault α

def fail {α : Type} (f : Failure) : Result α := .error (.impossible f)

/-- A character that a document may hold. -/
def isAllowed (c : Char) : Bool :=
  let n := c.toNat
  n = 9 || n = 10 || n = 13 || (0x20 ≤ n && n ≤ 0x7E) || n = 0x85 || (0xA0 ≤ n && n ≤ 0xD7FF)
    || (0xE000 ≤ n && n ≤ 0xFFFD) || 0x10000 ≤ n

/-- What ends the characters of a document that can be had. -/
inductive Ending where
  /-- The document ends. -/
  | complete
  /-- A character follows that no document may hold. -/
  | forbidden
  /-- Bytes follow that are no text. -/
  | noText (fault : Text.Utf8Fault)
deriving DecidableEq, Repr

/-- The characters of a document that can be had, and what ends them. -/
structure Stream where
  chars : List Char
  ending : Ending
deriving Repr

namespace Stream

/-- The number of characters that are taken from the file at a time, and the number of bytes in which they are
handed on. -/
def windowSize : Nat := 16384

/-- The characters at the front that fit into a number of bytes, and those behind. -/
def fitting : (room : Nat) → List Char → List Char × List Char
  | _, [] => ([], [])
  | room, c :: cs =>
    if c.utf8Size ≤ room then
      let (front, back) := fitting (room - c.utf8Size) cs
      (c :: front, back)
    else
      ([], c :: cs)

/-- The windows in which a portion of characters is handed on. The fuel is the number of characters. -/
def windows : (fuel : Nat) → List Char → List (List Char)
  | 0, _ => []
  | _ + 1, [] => []
  | fuel + 1, cs =>
    let (window, rest) := fitting windowSize cs
    window :: windows fuel rest

/-- The document that is handed on in portions, of which the last may have a fault behind it. A window with a
forbidden character is refused as a whole. A mark of the byte order at the start does not belong to the
document. -/
def ofPortions (portions : List (List Char)) (fault : Option Text.Utf8Fault) : Stream :=
  let windows := portions.flatMap fun cs => windows cs.length cs
  let accepted := windows.takeWhile (·.all isAllowed)
  let chars := match accepted.flatten with
    | '\ufeff' :: cs => cs
    | cs => cs
  let ending := match fault with
    | none => .complete
    | some fault => .noText fault
  ⟨chars, if accepted.length < windows.length then .forbidden else ending⟩

/-- The document in some bytes. -/
def ofBytes (bytes : List UInt8) : Stream :=
  let (portions, fault) := ({ bytes } : Text.Reader).portions windowSize (bytes.length + 2)
  .ofPortions portions fault

end Stream

end ClusterPlan.Yaml
