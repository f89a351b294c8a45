import ClusterPlan.Binary64.Basic
import ClusterPlan.Text.Pieces
import ClusterPlan.Text.Bytes

/-!
# Text files

A text file is decoded block by block, as far as somebody asks for its characters. A block may end inside a
character or between the two characters of a line end, which then belong to the next one. A fault is placed
relative to what is decoded at once, and it takes with it the characters that were asked for together.
-/

namespace ClusterPlan.Text

/-- A text file on the way. -/
structure Reader where
  /-- The bytes that are left. -/
  bytes : List UInt8
  /-- The bytes of a character that the last block has cut. -/
  pending : List UInt8 := []
  /-- Whether the last block ended with a carriage return, to which a line feed may belong. -/
  holdsReturn : Bool := false
  /-- The characters that are decoded and not yet taken. -/
  decoded : List Char := []
  /-- The number of bytes to a character in the last block. -/
  density : Binary64 := .zero

namespace Reader

/-- The least number of bytes in a block. -/
def leastBlock : Nat := 8192

/-- The number of bytes in the next block: those that the missing characters will have, judged by the last
block. -/
def blockSize (r : Reader) (missing : Nat) : Nat :=
  let one := Binary64.ofInt 1
  let density := if one.le r.density then r.density else one
  match (density.mul (.ofInt missing)).toRatio? with
  | some (bytes, units) => max leastBlock (bytes / units).toNat
  | none => leastBlock

/-- Decodes the next block when all decoded characters are taken; `none` at the end of the file. -/
def fill (r : Reader) (missing : Nat) : Except Utf8Fault (Option Reader) := do
  let size := r.blockSize missing
  let block := r.pending ++ r.bytes.take size
  let final := r.bytes.isEmpty
  let whole := if final then block.length else block.length - pendingLength block
  let cs ← decodeUtf8 (block.take whole)
  let cs := if r.holdsReturn then '\r' :: cs else cs
  let holdsReturn := !final && cs.getLast? = some '\r'
  let decoded := unifyLineEnds (if holdsReturn then cs.dropLast else cs)
  if final && decoded.isEmpty then
    return none
  return some {
    bytes := r.bytes.drop size
    pending := block.drop whole
    holdsReturn
    decoded
    density := .ofRatio false (r.bytes.take size).length decoded.length }

/-- Takes the wanted number of characters, or those that are left. The fuel is more than the number of
blocks. -/
def take : (fuel wanted : Nat) → Reader → Except Utf8Fault (List Char × Reader)
  | 0, _, r => .ok ([], r)
  | fuel + 1, wanted, r => do
    let front := r.decoded.take wanted
    let missing := wanted - front.length
    let r := { r with decoded := r.decoded.drop wanted }
    if missing = 0 then
      return (front, r)
    match ← r.fill missing with
    | none => return (front, r)
    | some r =>
      let (back, r) ← take fuel missing r
      return (front ++ back, r)

/-- The characters of a file as they are taken, `size` at a time, and the fault that ends them. The fuel is
more than the number of portions. -/
def portions (size : Nat) : (fuel : Nat) → Reader → List (List Char) × Option Utf8Fault
  | 0, _ => ([], none)
  | fuel + 1, r =>
    match r.take (r.bytes.length + 3) size with
    | .error fault => ([], some fault)
    | .ok ([], _) => ([], none)
    | .ok (portion, r) =>
      let (more, fault) := portions size fuel r
      (portion :: more, fault)

end Reader

end ClusterPlan.Text
