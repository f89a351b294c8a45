import ClusterPlan.Binary64.Shortest
import ClusterPlan.Memory
import ClusterPlan.Moment

/-!
# Values

What a configuration or a settings file can hold under a key. A value has two texts: `text`, by which
it is shown on its own, and `quoted`, by which it is shown inside a list or a mapping. `same` is the
equality of values, which compares numbers of different kinds by their size and mappings and sets
without regard to order. Where two values contain themselves, comparing them may never end (`compare`).
-/

namespace ClusterPlan

/-- A value of a configuration or of the settings. -/
inductive Value where
  | null
  | bool (b : Bool)
  | int (i : Int)
  | float (x : Binary64)
  | str (s : String)
  | memory (m : MemorySize)
  | duration (d : Duration)
  | moment (m : Moment)
  | bytes (data : List UInt8)
  | list (items : List Value)
  | tuple (items : List Value)
  | set (items : List Value)
  | mapping (entries : List (Value × Value))
  /-- A list or a mapping that contains itself. It is known by its text, and a list also by its items, of
  which those that go in circles are known by their texts in turn, as if they were mappings. -/
  | knot (isList : Bool) (text : Except Failure String) (items : List Value)

instance : Inhabited Value := ⟨.null⟩

namespace Value

/-- The name of the kind of a value, as messages have it. -/
def kindName : Value → String
  | null => "NoneType"
  | bool _ => "bool"
  | int _ => "int"
  | float _ => "float"
  | str _ => "str"
  | memory _ => "MemorySize"
  | duration _ => "datetime.timedelta"
  | moment (.date _) => "datetime.date"
  | moment (.time _) => "datetime.time"
  | moment (.dateTime ..) => "datetime.datetime"
  | bytes _ => "bytes"
  | list _ => "list"
  | tuple _ => "tuple"
  | set _ => "set"
  | mapping _ => "dict"
  | knot isList _ _ => if isList then "list" else "dict"

/-- Whether a value counts as true: zero, the empty text and the empty collections do not. -/
def truthy : Value → Bool
  | null => false
  | bool b => b
  | int i => i != 0
  | float x => !x.same .zero
  | str s => s != ""
  | memory _ => true
  | duration d => d.micros != 0
  | moment _ => true
  | bytes data => !data.isEmpty
  | list items => !items.isEmpty
  | tuple items => !items.isEmpty
  | set items => !items.isEmpty
  | mapping entries => !entries.isEmpty
  | knot .. => true

mutual

/-- The text of a value inside a collection. -/
def quoted : Value → Except Failure String
  | null => .ok "None"
  | bool b => .ok (if b then "True" else "False")
  | int i => writeInt i
  | float x => .ok x.text
  | str s => .ok (Text.quoted s)
  | memory m => do return "MemorySize(value=" ++ (← writeInt m.bytes) ++ ")"
  | duration d => .ok d.quotedText
  | moment m => .ok m.quotedText
  | bytes data => .ok (Text.quotedBytes data)
  | list items => do return "[" ++ ", ".intercalate (← quotedItems items) ++ "]"
  | tuple items => do
    let texts ← quotedItems items
    return "(" ++ ", ".intercalate texts ++ (if texts.length = 1 then ",)" else ")")
  | set items => do
    if items.isEmpty then return "set()"
    return "\x7b" ++ ", ".intercalate (← quotedItems items) ++ "\x7d"
  | mapping entries => do return "\x7b" ++ ", ".intercalate (← quotedEntries entries) ++ "\x7d"
  | knot _ text _ => text
termination_by structural v => v

/-- The quoted texts of some values. -/
def quotedItems : List Value → Except Failure (List String)
  | [] => .ok []
  | v :: vs => do
    let text ← quoted v
    return text :: (← quotedItems vs)
termination_by structural vs => vs

/-- The quoted texts of some entries, each with a colon between key and value. -/
def quotedEntries : List (Value × Value) → Except Failure (List String)
  | [] => .ok []
  | e :: es => do
    let text ← quotedEntry e
    return text :: (← quotedEntries es)
termination_by structural es => es

def quotedEntry : Value × Value → Except Failure String
  | (k, v) => do
    let key ← quoted k
    return key ++ ": " ++ (← quoted v)
termination_by structural e => e

end

/-- The text of a value on its own. Texts, sizes and durations are shown plainly, everything else as
inside a collection. -/
def text (tolerance : Tolerance) : Value → Except Failure String
  | str s => .ok s
  | memory m => m.text tolerance
  | duration d => .ok d.clockText
  | moment m => .ok m.text
  | v => v.quoted

mutual

/-- The kind of the collection that keeps a value from being a key. -/
def unhashable? : Value → Option String
  | list _ => some "list"
  | set _ => some "set"
  | mapping _ => some "dict"
  | tuple items => unhashableItem? items
  | knot isList _ _ => some (if isList then "list" else "dict")
  | null | bool _ | int _ | float _ | str _ | memory _ | duration _ | moment _ | bytes _ => none
termination_by structural v => v

/-- The kind of the collection that keeps the first of some values from being a key. -/
def unhashableItem? : List Value → Option String
  | [] => none
  | v :: vs =>
    match unhashable? v with
    | some kind => some kind
    | none => unhashableItem? vs
termination_by structural vs => vs

end

/-- How numbers of different kinds are compared: truth values count as zero and one. -/
def asInt? : Value → Option Int
  | bool b => some (if b then 1 else 0)
  | int i => some i
  | _ => none

/-- Equality of values that are not collections. -/
def sameScalar (v w : Value) : Bool :=
  match v, w with
  | null, null => true
  | str s, str t => s == t
  | memory m, memory n => m == n
  | duration d, duration e => d == e
  | moment m, moment n => m.same n
  | bytes a, bytes b => a == b
  | float x, float y => x.same y
  | float x, w => w.asInt?.any fun i => x.compareInt? i == some .eq
  | v, float y => v.asInt?.any fun i => y.compareInt? i == some .eq
  | v, w =>
    match v.asInt?, w.asInt? with
    | some i, some j => i == j
    | _, _ => false

mutual

/-- Equality of values. -/
def same : Value → Value → Bool
  | list vs, list ws => sameItems vs ws
  | tuple vs, tuple ws => sameItems vs ws
  | set vs, set ws => vs.length == ws.length && allAmong vs ws
  | mapping es, mapping fs => es.length == fs.length && allEntriesAmong es fs
  | null, w => sameScalar null w
  | bool b, w => sameScalar (bool b) w
  | int i, w => sameScalar (int i) w
  | float x, w => sameScalar (float x) w
  | str s, w => sameScalar (str s) w
  | memory m, w => sameScalar (memory m) w
  | duration d, w => sameScalar (duration d) w
  | moment m, w => sameScalar (moment m) w
  | bytes b, w => sameScalar (bytes b) w
  | list _, _ => false
  | tuple _, _ => false
  | set _, _ => false
  | mapping _, _ => false
  | knot .., _ => false
termination_by structural v => v

/-- Whether two lists hold the same values in the same order. -/
def sameItems : List Value → List Value → Bool
  | [], [] => true
  | v :: vs, w :: ws => same v w && sameItems vs ws
  | [], _ :: _ => false
  | _ :: _, [] => false
termination_by structural vs => vs

/-- Whether every value of the first list is in the second. -/
def allAmong : List Value → List Value → Bool
  | [], _ => true
  | v :: vs, ws => ws.any (fun w => same v w) && allAmong vs ws
termination_by structural vs => vs

/-- Whether every entry of the first list is in the second. -/
def allEntriesAmong : List (Value × Value) → List (Value × Value) → Bool
  | [], _ => true
  | e :: es, fs => fs.any (fun f => sameEntry e f) && allEntriesAmong es fs
termination_by structural es => es

def sameEntry : Value × Value → Value × Value → Bool
  | (k, v), f => same k f.1 && same v f.2
termination_by structural e => e

end

mutual

/-- Whether nothing in a value contains itself. -/
def isFinite : Value → Bool
  | list items => itemsFinite items
  | tuple items => itemsFinite items
  | mapping entries => entriesFinite entries
  | knot .. => false
  | null | bool _ | int _ | float _ | str _ | memory _ | duration _ | moment _ | bytes _ | set _ => true
termination_by structural v => v

def itemsFinite : List Value → Bool
  | [] => true
  | v :: vs => isFinite v && itemsFinite vs
termination_by structural vs => vs

/-- Whether no value of some entries contains itself. A key cannot. -/
def entriesFinite : List (Value × Value) → Bool
  | [] => true
  | e :: es => entryFinite e && entriesFinite es
termination_by structural es => es

def entryFinite : Value × Value → Bool
  | (_, v) => isFinite v
termination_by structural e => e

end

/-- The items of a list, also of one that contains itself. -/
def listItems? : Value → Option (List Value)
  | list items => some items
  | knot true _ items => some items
  | _ => none

/-- What is known by its text only: it may be anything that contains itself. -/
def isHidden : Value → Bool
  | knot false _ _ => true
  | _ => false

mutual

/-- Whether comparing two values meets something that contains itself in both, before a difference is found:
then it never ends. In what is known by its text only no difference is found. -/
def isEndless : Value → Value → Bool
  | list vs, w =>
    match w.listItems? with
    | some ws => vs.length == ws.length && itemsEndless vs ws
    | none => w.isHidden && !itemsFinite vs
  | tuple vs, w =>
    match w with
    | tuple ws => itemsEndless vs ws
    | w => w.isHidden && !itemsFinite vs
  | mapping es, w =>
    match w with
    | mapping fs => es.length == fs.length && entriesEndless es fs
    | w => w.isHidden && !entriesFinite es
  | knot true _ vs, w =>
    match w.listItems? with
    | some ws => vs.length == ws.length && itemsEndless vs ws
    | none => w.isHidden
  | knot false _ _, w => !w.isFinite
  | null, _ | bool _, _ | int _, _ | float _, _ | str _, _ | memory _, _ | duration _, _ | moment _, _
  | bytes _, _ | set _, _ => false
termination_by structural v => v

/-- Items are compared one by one as long as they are equal. -/
def itemsEndless : List Value → List Value → Bool
  | v :: vs, w :: ws => isEndless v w || (same v w && itemsEndless vs ws)
  | _, _ => false
termination_by structural vs => vs

/-- The values under equal keys are compared one by one as long as they are equal. -/
def entriesEndless : List (Value × Value) → List (Value × Value) → Bool
  | [], _ => false
  | e :: es, fs =>
    match fs.find? fun f => same e.1 f.1 with
    | some f => entryEndless e f.2 || (same e.2 f.2 && entriesEndless es fs)
    | none => false
termination_by structural es => es

def entryEndless : Value × Value → Value → Bool
  | (_, v), w => isEndless v w
termination_by structural e => e

end

/-- Compares two values. They are never one and the same, as every configuration keeps copies of its own. -/
def compare (v w : Value) : Except Failure Bool :=
  if v.isEndless w then .error .endlessNesting else .ok (v.same w)

/-- Whether two values are one key: equal values are, and so is what is not a number with itself. -/
def sameKey : Value → Value → Bool
  | float .nan, float .nan => true
  | v, w => same v w

/-- Puts a value under a key of a mapping: in place of the value of an equal key, which stays as it is,
or else at the end. -/
def putEntry (k v : Value) : List (Value × Value) → List (Value × Value)
  | [] => [(k, v)]
  | (k', v') :: es => if sameKey k' k then (k', v) :: es else (k', v') :: putEntry k v es

/-- The value of a mapping under a key. -/
def entry? (k : String) : List (Value × Value) → Option Value
  | [] => none
  | (str k', v) :: es => if k' = k then some v else entry? k es
  | _ :: es => entry? k es

/-- A mapping with texts for keys. -/
def ofEntries (es : List (String × Value)) : Value :=
  mapping (es.map fun e => (str e.1, e.2))

end Value

end ClusterPlan
