import ClusterPlan.Yaml.Cursor

/-!
# Tags

The tag of a node says what it stands for. A plain scalar without a tag gets one from its text:
`Tag.ofPlain` tells truth values, numbers, dates, the missing value and the two special keys from
ordinary texts.
-/

namespace ClusterPlan.Yaml

/-- What a node stands for. -/
inductive Tag where
  | null
  | bool
  | int
  | float
  | binary
  | timestamp
  | omap
  | pairs
  | set
  | str
  | seq
  | map
  | merge
  | value
  | unknown
deriving DecidableEq, Repr, Inhabited

namespace Tag

/-- What all known tags start with. -/
def family : String := "tag:yaml.org,2002:"

/-- The known tags by name. -/
def names : List (String × Tag) :=
  [("null", null), ("bool", bool), ("int", int), ("float", float), ("binary", binary),
    ("timestamp", timestamp), ("omap", omap), ("pairs", pairs), ("set", set), ("str", str),
    ("seq", seq), ("map", map), ("merge", merge), ("value", value)]

/-- The tag with a full name. -/
def ofName (name : String) : Tag :=
  ((names.find? fun (n, _) => family ++ n = name).map Prod.snd).getD unknown

/-! ## Plain scalars -/

/-- The words for truth values. -/
def boolWords : List String :=
  ["yes", "Yes", "YES", "no", "No", "NO", "true", "True", "TRUE", "false", "False", "FALSE", "on",
    "On", "ON", "off", "Off", "OFF"]

/-- The words for the missing value. -/
def nullWords : List String := ["", "~", "null", "Null", "NULL"]

def dropSign : List Char → List Char
  | '-' :: cs => cs
  | '+' :: cs => cs
  | cs => cs

def isDigitOrMark (c : Char) : Bool := c.isDigit || c = '_'

/-- The groups of a number that counts in sixties, behind the first one: a colon and one or two digits
each, of two the first at most five. The result is what follows them. -/
def sixties : List Char → Option (List Char)
  | ':' :: a :: b :: cs =>
    if a.isDigit && a ≤ '5' && b.isDigit then (sixties cs).or (some cs)
    else if a.isDigit then (sixties (b :: cs)).or (some (b :: cs))
    else none
  | [':', a] => if a.isDigit then some [] else none
  | _ => none

/-- Whether a text is written as a whole number. -/
def isInt (cs : List Char) : Bool :=
  match dropSign cs with
  | '0' :: 'b' :: ds => !ds.isEmpty && ds.all fun c => c = '0' || c = '1' || c = '_'
  | '0' :: 'x' :: ds =>
    !ds.isEmpty && ds.all fun c =>
      isDigitOrMark c || ('a' ≤ c && c ≤ 'f') || ('A' ≤ c && c ≤ 'F')
  | '0' :: ds => ds.all fun c => ('0' ≤ c && c ≤ '7') || c = '_'
  | d :: ds =>
    d.isDigit && (ds.all isDigitOrMark || sixties (ds.dropWhile isDigitOrMark) = some [])
  | [] => false

/-- An exponent with its sign, or nothing. -/
def isExponent : List Char → Bool
  | [] => true
  | e :: s :: ds => (e = 'e' || e = 'E') && (s = '+' || s = '-') && !ds.isEmpty && ds.all Char.isDigit
  | _ => false

/-- Whether a text is written as a number with a decimal point. -/
def isFloat (cs : List Char) : Bool :=
  if String.ofList (dropSign cs) ∈ [".inf", ".Inf", ".INF"] then true
  else if String.ofList cs ∈ [".nan", ".NaN", ".NAN"] then true
  else
    match dropSign cs with
    | '.' :: d :: ds => cs.head? = some '.' && d.isDigit && isExponent (ds.dropWhile isDigitOrMark)
    | d :: ds =>
      let rest := ds.dropWhile isDigitOrMark
      d.isDigit &&
        match rest with
        | '.' :: fraction => isExponent (fraction.dropWhile isDigitOrMark)
        | ':' :: _ =>
          match sixties rest with
          | some ('.' :: fraction) => fraction.all isDigitOrMark
          | _ => false
        | _ => false
    | [] => false

/-- Splits off one or two digits. -/
def shortNumber : List Char → Option (List Char × List Char)
  | a :: b :: cs =>
    if a.isDigit && b.isDigit then some ([a, b], cs)
    else if a.isDigit then some ([a], b :: cs)
    else none
  | [a] => if a.isDigit then some ([a], []) else none
  | [] => none

/-- Splits off exactly two digits. -/
def twoDigits : List Char → Option (List Char × List Char)
  | a :: b :: cs => if a.isDigit && b.isDigit then some ([a, b], cs) else none
  | _ => none

/-- The offset of a timestamp: its sign, hours and minutes; an empty offset stands for none, and
universal time has an offset without digits. -/
structure WrittenOffset where
  sign : Char
  hour : List Char
  minute : List Char

/-- A timestamp as it is written. -/
structure WrittenTime where
  year : List Char
  month : List Char
  day : List Char
  clock : Option (List Char × List Char × List Char)
  fraction : List Char
  offset : Option WrittenOffset

/-- Reads the offset at the end of a timestamp. -/
def writtenOffset (cs : List Char) : Option (Option WrittenOffset) :=
  match cs.dropWhile isSpace with
  | [] => if cs.isEmpty then some none else none
  | ['Z'] => some (some ⟨'Z', [], []⟩)
  | sign :: rest =>
    if sign = '+' || sign = '-' then
      match shortNumber rest with
      | some (hour, []) => some (some ⟨sign, hour, []⟩)
      | some (hour, ':' :: rest) =>
        match twoDigits rest with
        | some (minute, []) => some (some ⟨sign, hour, minute⟩)
        | _ => none
      | _ => none
    else
      none

/-- Passes what stands between a date and a time. -/
def timeMark : List Char → Option (List Char)
  | c :: cs =>
    if c = 'T' || c = 't' then some cs
    else if isSpace c then some (cs.dropWhile isSpace)
    else none
  | [] => none

/-- Reads the time of day of a timestamp and its offset, behind the date. -/
def writtenClock (year month day : List Char) (cs : List Char) : Option WrittenTime := do
  let (hour, cs) ← shortNumber (← timeMark cs)
  let cs ← if cs.head? = some ':' then some (cs.drop 1) else none
  let (minute, cs) ← twoDigits cs
  let cs ← if cs.head? = some ':' then some (cs.drop 1) else none
  let (second, cs) ← twoDigits cs
  let (fraction, cs) := match cs with
    | '.' :: cs => (cs.takeWhile Char.isDigit, cs.dropWhile Char.isDigit)
    | cs => ([], cs)
  let offset ← writtenOffset cs
  return ⟨year, month, day, some (hour, minute, second), fraction, offset⟩

/-- Reads a timestamp: a date, or a date and a time. -/
def writtenTime (cs : List Char) : Option WrittenTime := do
  let year := cs.take 4
  if year.length != 4 || !year.all Char.isDigit || (cs.drop 4).head? != some '-' then
    none
  let (month, rest) ← shortNumber (cs.drop 5)
  let rest ← if rest.head? = some '-' then some (rest.drop 1) else none
  let (day, rest) ← shortNumber rest
  if rest.isEmpty then some ⟨year, month, day, none, [], none⟩ else writtenClock year month day rest

/-- Whether a text is a timestamp without being said to be one: a date alone has two digits for the month
and for the day. -/
def isTimestamp (cs : List Char) : Bool :=
  (writtenTime cs).any fun w => w.clock.isSome || (w.month.length = 2 && w.day.length = 2)

/-- A text without a line feed at its end. -/
def dropFinalBreak (cs : List Char) : List Char :=
  if cs.getLast? = some '\n' then cs.dropLast else cs

/-- The tag of a plain scalar. A line feed behind the text does not count. -/
def ofPlain (text : String) : Tag :=
  let cs := if text = "\n" then text.toList else dropFinalBreak text.toList
  let text := String.ofList cs
  if text ∈ nullWords then null
  else if text ∈ boolWords then bool
  else if text = "<<" then merge
  else if text = "=" then value
  else if isFloat cs then float
  else if isInt cs then int
  else if isTimestamp cs then timestamp
  else str

end Tag

end ClusterPlan.Yaml
