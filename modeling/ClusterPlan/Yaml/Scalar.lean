import ClusterPlan.Text.Bytes
import ClusterPlan.Text.Case
import ClusterPlan.Text.Decimal
import ClusterPlan.Text.Pieces
import ClusterPlan.Value
import ClusterPlan.Yaml.Tag

/-!
# Values of scalars

What the text of a scalar denotes under its tag. A plain scalar got its tag from its text, so its text
has the form that the tag requires; under a tag that was written it may not.
-/

namespace ClusterPlan.Yaml

namespace Scalar

/-- The words for truth, in lower case. -/
def trueWords : List String := ["yes", "true", "on"]

/-- The words for falsehood, in lower case. -/
def falseWords : List String := ["no", "false", "off"]

def bool (text : String) : Result Value :=
  let word := Text.lowerString text
  if word ∈ trueWords then .ok (.bool true)
  else if word ∈ falseWords then .ok (.bool false)
  else fail (.keyMissing word)

/-- Splits off a sign; the flag tells whether it was a minus. -/
def splitSign (cs : List Char) : Result (Bool × List Char) :=
  match cs with
  | [] => fail .emptyNumeral
  | '-' :: cs => .ok (true, cs)
  | '+' :: cs => .ok (false, cs)
  | cs => .ok (false, cs)

/-- The number that digits of a base denote. -/
def inBase (base : Nat) (cs : List Char) : Result Int :=
  match Text.readInBase? base cs with
  | some i => .ok i
  | none => fail (.badNumeral base (.ofList cs))

/-- The number that decimal digits denote. -/
def decimal (cs : List Char) : Result Int :=
  match Text.readInt cs with
  | .number i => .ok i
  | .tooLong digits => fail (.numeralTooLong digits)
  | .malformed => fail (.badNumeral 10 (.ofList cs))

/-- The sum of numbers, the last of which counts once, and each other one sixty times as much as the
one after it. -/
def inSixties (parts : List Int) : Int :=
  parts.foldl (fun n d => 60 * n + d) 0

/-- The whole number a text denotes: binary, octal, decimal, hexadecimal, or counted in sixties. -/
def int (text : String) : Result Value := do
  let (negative, cs) ← splitSign (text.toList.filter (· != '_'))
  let sign (i : Int) : Value := .int (if negative then -i else i)
  match cs with
  | ['0'] => return .int 0
  | '0' :: 'b' :: ds => return sign (← inBase 2 ds)
  | '0' :: 'x' :: ds => return sign (← inBase 16 ds)
  | '0' :: _ => return sign (← inBase 8 cs)
  | [] => fail .emptyNumeral
  | cs =>
    if cs.contains ':' then
      return sign (inSixties (← (Text.pieces ':' cs).mapM decimal))
    return sign (← decimal cs)

/-- The number a text with a decimal point or an exponent denotes. -/
def floatPart (cs : List Char) : Result Binary64 :=
  match Text.readFloat? cs with
  | some x => .ok x
  | none => fail (.badFloat (.ofList cs))

/-- The sum of numbers, the first of which counts `base` times, and each other one sixty times as much as
the one before it. A number of times that is too large for a floating-point number is a failure. -/
def floatInSixties (sum : Binary64) (base : Int) : List Binary64 → Result Binary64
  | [] => .ok sum
  | x :: xs =>
    match Binary64.ofInt base with
    | .finite s m e => floatInSixties (sum.add (x.mul (.finite s m e))) (base * 60) xs
    | _ => fail .integerTooLarge

/-- The one text for what is not a number. -/
def nanText : List Char := ".nan".toList

/-- Whether a text denotes the one value of the document that is not a number. -/
def isSharedNan (text : String) : Bool :=
  match splitSign (Text.lower (text.toList.filter (· != '_'))) with
  | .ok (_, cs) => cs == nanText
  | .error _ => false

/-- The floating-point number a text denotes. -/
def float (text : String) : Result Value := do
  let (negative, cs) ← splitSign (Text.lower (text.toList.filter (· != '_')))
  let sign (x : Binary64) : Value := .float (if negative then x.neg else x)
  if cs = ".inf".toList then
    return sign (.infinity false)
  if cs = nanText then
    return .float .nan
  if cs.contains ':' then
    let parts ← (Text.pieces ':' cs).mapM floatPart
    return sign (← floatInSixties .zero 1 parts.reverse)
  return sign (← floatPart cs)

/-- The bytes a text stands for; it is ASCII. -/
def binary (text : String) : Result Value :=
  let cs := text.toList
  if cs.all fun c => c.toNat < 0x80 then
    match Text.decodeBase64 cs with
    | some bytes => .ok (.bytes bytes)
    | none => .error .malformed
  else
    .error .malformed

/-- Takes over the failure of a computation on values. -/
def lift {α : Type} (x : Except Failure α) : Result α :=
  x.mapError .impossible

/-- The offset that is written behind a time. -/
def offset (w : Tag.WrittenOffset) : Except Failure Offset :=
  if w.sign = 'Z' then .ok ⟨0⟩
  else
    let minutes : Int := Text.ofDigits w.hour * 60 + Text.ofDigits w.minute
    Offset.make (if w.sign = '-' then -minutes else minutes)

/-- The moment that is written. The offset is checked before the date, and the date before the time;
of a fraction six digits count. -/
def moment (w : Tag.WrittenTime) : Except Failure Moment := do
  let offset ← match w.offset with
    | some o => some <$> offset o
    | none => pure none
  let date ← Date.make (Text.ofDigits w.year) (Text.ofDigits w.month) (Text.ofDigits w.day)
  match w.clock with
  | none => return .date date
  | some (hour, minute, second) =>
    let fraction := (w.fraction ++ List.replicate 6 '0').take 6
    let time ← Time.make (Text.ofDigits hour) (Text.ofDigits minute) (Text.ofDigits second)
      (Text.ofDigits fraction)
    return .dateTime date time offset

/-- The moment a text denotes. A line feed at the end does not count. -/
def timestamp (text : String) : Result Value :=
  match Tag.writtenTime (Tag.dropFinalBreak text.toList) with
  | some w => .moment <$> lift (moment w)
  | none => fail (.noAttribute "NoneType" "groupdict")

/-- The value of a scalar. -/
def value (tag : Tag) (text : String) : Result Value :=
  match tag with
  | .null => .ok .null
  | .bool => bool text
  | .int => int text
  | .float => float text
  | .binary => binary text
  | .timestamp => timestamp text
  | .str => .ok (.str text)
  | _ => .error .malformed

end Scalar

end ClusterPlan.Yaml
