import ClusterPlan.Yaml.Token.Scalar

/-!
# Names, tags and directives in a document

An anchor and an alias have a name; a tag is a handle and a suffix, in which a percent sign escapes the
bytes of a character; a directive announces the version or a handle.
-/

namespace ClusterPlan.Yaml

/-- Reads the name behind `&` or `*`. -/
def readName (c : Cursor) : Scanned (String × Cursor) := do
  let (name, c) ← (c.skip 1).takeWhile isNameChar
  let ends (x : Char) : Bool := isGap x || ['?', ':', ',', ']', '\x7d', '%', '@', '`'].contains x
  if name.isEmpty || !c.endsAt 0 ends then
    malformed
  return (.ofList name, c)

/-- A character of a tag. Brackets and commas belong to a tag only between angle brackets and in
directives. -/
def isTagChar (verbatim : Bool) (x : Char) : Bool :=
  isNameChar x || ";/?:@&=+$.%!~*'()".toList.contains x || (verbatim && ",[]".toList.contains x)

/-- Reads a byte that is escaped with a percent sign. -/
def readEscapedByte (c : Cursor) : Scanned (UInt8 × Cursor) := do
  c.need 3
  match c.rest with
  | '%' :: x :: y :: _ =>
    match hexNumber? [x, y] with
    | some n => return (UInt8.ofNat n, c.skip 3)
    | none => malformed
  | _ => malformed

/-- The number of bytes after a first byte, told by its highest bits. -/
def followers? (b : UInt8) : Option Nat :=
  if b < 0x80 then some 0
  else if b < 0xC0 then none
  else if b < 0xE0 then some 1
  else if b < 0xF0 then some 2
  else if b < 0xF8 then some 3
  else none

/-- Reads escaped bytes that follow a first byte. -/
def readFollowers : (count : Nat) → Cursor → Scanned (List UInt8 × Cursor)
  | 0, c => return ([], c)
  | count + 1, c => do
    let (b, c) ← readEscapedByte c
    if !Text.isContinuation b then
      malformed
    let (bytes, c) ← readFollowers count c
    return (b :: bytes, c)

/-- Reads the escaped bytes of a character. Whether they are one is not said by their number. -/
def readEscapedChar (c : Cursor) : Scanned (List UInt8 × Cursor) := do
  let (b, c) ← readEscapedByte c
  match followers? b with
  | some count => do
    let (bytes, c) ← readFollowers count c
    return (b :: bytes, c)
  | none => malformed

/-- The bytes of some characters. -/
def bytesOf (cs : List Char) : List UInt8 :=
  (String.ofList cs).toUTF8.toList

/-- Reads the characters of a tag. The fuel is more than the number of characters. -/
def readTagChars (verbatim : Bool) :
    (fuel : Nat) → List UInt8 → Cursor → Scanned (List UInt8 × Cursor)
  | 0, bytes, c => return (bytes, c)
  | fuel + 1, bytes, c => do
    c.need 1
    match c.peek? with
    | none => return (bytes, c)
    | some x =>
      if x = '%' then do
        let (char, c) ← readEscapedChar c
        readTagChars verbatim fuel (bytes ++ char) c
      else if isTagChar verbatim x then
        readTagChars verbatim fuel (bytes ++ bytesOf [x]) (c.skip 1)
      else
        return (bytes, c)

/-- Reads the suffix of a tag. `head` is what was read before and turned out to belong to it; its first
character is dropped. Head and suffix together are not empty. A zero byte ends a tag early. -/
def readSuffix (verbatim : Bool) (head : List Char) (c : Cursor) :
    Scanned (List UInt8 × Cursor) := do
  let (bytes, c') ← readTagChars verbatim (c.rest.length + 1) [] c
  if head.isEmpty && bytes.isEmpty then
    malformed
  return ((bytesOf (head.drop 1) ++ bytes).takeWhile (· != 0), c')

/-- Reads a handle: an exclamation mark, a name, and a second mark if there is one. -/
def readHandle (c : Cursor) : Scanned (List Char × Cursor) := do
  if !c.sees '!' then
    malformed
  let (name, c) ← (c.skip 1).takeWhile isNameChar
  return if c.sees '!' then ('!' :: name ++ ['!'], c.skip 1) else ('!' :: name, c)

/-- Reads the handle and the suffix of a tag. The verbatim form has no handle. -/
def readTagParts (c : Cursor) : Scanned (String × List UInt8 × Cursor) := do
  c.need 2
  if c.peekAt? 1 = some '<' then
    let (suffix, c) ← readSuffix true [] (c.skip 2)
    if !c.sees '>' then
      malformed
    return ("", suffix, c.skip 1)
  else
    let (handle, c) ← readHandle c
    if handle.length ≥ 2 && handle.getLast? = some '!' then
      let (suffix, c) ← readSuffix false [] c
      return (.ofList handle, suffix, c)
    let (suffix, c) ← readSuffix false handle c
    return if suffix.isEmpty then ("", bytesOf ['!'], c) else ("!", suffix, c)

/-- Reads a tag. A gap follows it, or a comma inside brackets. -/
def readTag (flow : Bool) (c : Cursor) : Scanned (Token × Cursor) := do
  let (handle, suffix, c) ← readTagParts c
  c.need 1
  if !(c.endsAt 0 isGap || (flow && c.sees ',')) then
    malformed
  return (.tag handle suffix, c)

/-- Reads a number of a version. A number that is too long is refused before its end is known. -/
def readVersionNumber (c : Cursor) : Scanned (Nat × Cursor) := do
  if 9 < (c.rest.takeWhile Char.isDigit).length then
    malformed
  let (ds, c) ← c.takeWhile Char.isDigit
  if ds.isEmpty then
    malformed
  return (ds.foldl (fun n d => 10 * n + (d.toNat - 48)) 0, c)

/-- Reads what a directive says, by its name. -/
def readDirectiveBody (name : List Char) (c : Cursor) : Scanned (Token × Cursor) := do
  if name = "YAML".toList then
    let (major, c) ← readVersionNumber (← c.skipWhile isSpace)
    if !c.sees '.' then
      malformed
    let (minor, c) ← readVersionNumber (c.skip 1)
    return (.version major minor, c)
  else if name = "TAG".toList then
    let (handle, c) ← readHandle (← c.skipWhile isSpace)
    if handle != ['!'] && handle.getLast? != some '!' then
      malformed
    c.need 1
    if !(c.peek?.any isSpace) then
      malformed
    let (path, c) ← readSuffix true [] (← c.skipWhile isSpace)
    if !c.endsAt 0 isGap then
      malformed
    return (.tagDirective (.ofList handle) path, c)
  else
    malformed

/-- Reads a directive with the rest of its line. -/
def readDirective (c : Cursor) : Scanned (Token × Cursor) := do
  let (name, c) ← (c.skip 1).takeWhile isNameChar
  if name.isEmpty || !c.endsAt 0 isGap then
    malformed
  let (token, c) ← readDirectiveBody name c
  let c ← (← c.skipWhile isSpace).skipComment
  if !c.endsAt 0 isBreak then
    malformed
  return (token, ← c.passBreak)

end ClusterPlan.Yaml
