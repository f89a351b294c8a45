import ClusterPlan.Text.Printable

/-!
# Texts and bytes

Text that is decoded from UTF-8, and bytes that are decoded from base 64. A byte sequence that is not
well-formed is reported with the place, the number of bytes in question and the reason, judged at the first
byte that cannot be right.
-/

namespace ClusterPlan.Text

/-! ## UTF-8 -/

/-- Why bytes are no text. -/
inductive Utf8Problem where
  | startByte
  | continuation
  | endOfData
deriving DecidableEq, Repr

/-- Bytes that are no text: where they start, the first of them, how many they are, and why. -/
structure Utf8Fault where
  position : Nat
  byte : UInt8
  length : Nat
  problem : Utf8Problem
deriving DecidableEq, Repr

def Utf8Problem.text : Utf8Problem → String
  | .startByte => "invalid start byte"
  | .continuation => "invalid continuation byte"
  | .endOfData => "unexpected end of data"

def Utf8Fault.message (f : Utf8Fault) : String :=
  let place :=
    if f.length = 1 then
      "byte 0x" ++ .ofList (hex 2 f.byte.toNat) ++ " in position " ++ toString f.position
    else
      "bytes in position " ++ toString f.position ++ "-" ++ toString (f.position + f.length - 1)
  "'utf-8' codec can't decode " ++ place ++ ": " ++ f.problem.text

def isContinuation (b : UInt8) : Bool :=
  0x80 ≤ b && b < 0xC0

/-- The range of second bytes after a first byte: it shuts out overlong forms, surrogates and code
points beyond the last. -/
def isSecond (first second : UInt8) : Bool :=
  isContinuation second
    && (if first = 0xE0 then 0xA0 ≤ second else true)
    && (if first = 0xED then second < 0xA0 else true)
    && (if first = 0xF0 then 0x90 ≤ second else true)
    && (if first = 0xF4 then second < 0x90 else true)

/-- What stands at the head of some bytes: a character and its length, or a fault with the number of
bytes in question. -/
inductive Utf8Head where
  | char (c : Char) (length : Nat)
  | fault (length : Nat) (problem : Utf8Problem)

/-- The number of bytes a first byte announces, with its own part of the code point. -/
def announced (b : UInt8) : Option (Nat × Nat) :=
  if b < 0x80 then some (1, b.toNat)
  else if b < 0xC2 then none
  else if b < 0xE0 then some (2, b.toNat - 0xC0)
  else if b < 0xF0 then some (3, b.toNat - 0xE0)
  else if b < 0xF5 then some (4, b.toNat - 0xF0)
  else none

/-- Reads `remaining` continuation bytes after `seen` bytes. -/
def continuations (code seen : Nat) : Nat → List UInt8 → Utf8Head
  | 0, _ => .char (Char.ofNat code) seen
  | _ + 1, [] => .fault seen .endOfData
  | remaining + 1, b :: bytes =>
    if isContinuation b then
      continuations (code * 64 + (b.toNat - 0x80)) (seen + 1) remaining bytes
    else
      .fault seen .continuation

/-- Reads the character at the head of the bytes that follow the byte `b`. -/
def utf8Head (b : UInt8) (bytes : List UInt8) : Utf8Head :=
  match announced b with
  | none => .fault 1 .startByte
  | some (1, code) => .char (Char.ofNat code) 1
  | some (n, code) =>
    match bytes with
    | [] => .fault 1 .endOfData
    | second :: _ =>
      if isSecond b second then continuations code 1 (n - 1) bytes else .fault 1 .continuation

/-- Decodes the bytes that start at `position`. The fuel is their number. -/
def decodeFrom (position : Nat) : (fuel : Nat) → List UInt8 → Except Utf8Fault (List Char)
  | 0, _ => .ok []
  | _ + 1, [] => .ok []
  | fuel + 1, b :: bytes =>
    match utf8Head b bytes with
    | .char c length => do
      let rest ← decodeFrom (position + length) fuel (bytes.drop (length - 1))
      .ok (c :: rest)
    | .fault length problem => .error ⟨position, b, length, problem⟩

/-- The text that the bytes encode. -/
def decodeUtf8 (bytes : List UInt8) : Except Utf8Fault (List Char) :=
  decodeFrom 0 bytes.length bytes

/-- The number of bytes that end in the middle of a character. -/
def pendingLength (bytes : List UInt8) : Nat :=
  match decodeUtf8 bytes with
  | .error ⟨position, _, _, .endOfData⟩ => bytes.length - position
  | _ => 0

/-! ## Base 64

Bytes written as letters, digits and two further characters, six bits each, with equals signs to fill
the last group of four. Other characters are passed over, and what follows a filled group is ignored. -/

/-- The six bits a character stands for. -/
def sixBits? (c : Char) : Option Nat :=
  if 'A' ≤ c && c ≤ 'Z' then some (c.toNat - 65)
  else if 'a' ≤ c && c ≤ 'z' then some (c.toNat - 71)
  else if '0' ≤ c && c ≤ '9' then some (c.toNat + 4)
  else if c = '+' then some 62
  else if c = '/' then some 63
  else none

/-- The bytes that a group of two to four characters gives. -/
def groupBytes : List Nat → List UInt8
  | [a, b] => [UInt8.ofNat (a * 4 + b / 16)]
  | [a, b, c] => groupBytes [a, b] ++ [UInt8.ofNat (b % 16 * 16 + c / 4)]
  | [a, b, c, d] => groupBytes [a, b, c] ++ [UInt8.ofNat (c % 4 * 64 + d)]
  | _ => []

/-- Decodes the characters behind the `group` that has begun, with `fill` equals signs since the last
character. An unfinished group at the end is no text of bytes. -/
def decodeGroups (group : List Nat) (fill : Nat) : List Char → Option (List UInt8)
  | [] => if group.isEmpty then some [] else none
  | c :: cs =>
    if c = '=' then
      if 2 ≤ group.length && 4 ≤ group.length + fill + 1 then some (groupBytes group)
      else decodeGroups group (if 2 ≤ group.length then fill + 1 else fill) cs
    else
      match sixBits? c with
      | none => decodeGroups group fill cs
      | some v =>
        if group.length = 3 then (decodeGroups [] 0 cs).map (groupBytes (group ++ [v]) ++ ·)
        else decodeGroups (group ++ [v]) 0 cs

/-- The bytes that a text stands for. -/
def decodeBase64 (cs : List Char) : Option (List UInt8) :=
  decodeGroups [] 0 cs

end ClusterPlan.Text
