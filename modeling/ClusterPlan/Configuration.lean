import ClusterPlan.ConfigOption

/-!
# Configurations

A configuration is an ordered mapping from keys to values in which every value under a known key is of
the type of its option. Every operation builds a configuration anew and converts all of its values, so
the invariant is part of the type: `ofValues` is the only way from values to a configuration.
-/

namespace ClusterPlan

/-- Whether a value may be stored under a key. -/
def fits (key : String) (v : Value) : Bool :=
  (ConfigOption.known? key).all fun o => o.type.holds v

/-- A configuration. -/
structure Configuration where
  values : Ordered Value
  typed : ∀ e ∈ values.entries, fits e.1 e.2 = true

namespace ConfigOption

/-- How an option comes by what it makes of a value: a value of its type is kept, of any other one the text is
read, and of a sequence the texts of its items. -/
inductive Converts (tolerance : Tolerance) (o : ConfigOption) : Value → Value → Prop
  | string {v : Value} {s : String} : o.type = .string → v.text tolerance = .ok s →
      Converts tolerance o v (.str s)
  | integer {i : Int} : o.type = .integer → Converts tolerance o (.int i) (.int i)
  | readInteger {v : Value} {s : String} {i : Int} : o.type = .integer → v.text tolerance = .ok s →
      Text.readInt (Text.trim s.toList) = .number i → Converts tolerance o v (.int i)
  | boolean {b : Bool} : o.type = .boolean → Converts tolerance o (.bool b) (.bool b)
  | readBoolean {v : Value} {s : String} {b : Bool} : o.type = .boolean → v.text tolerance = .ok s →
      readBool? s = some b → Converts tolerance o v (.bool b)
  | memory {m : MemorySize} : o.type = .memory → Converts tolerance o (.memory m) (.memory m)
  | readMemory {v : Value} {s : String} {m : MemorySize} : o.type = .memory → v.text tolerance = .ok s →
      MemorySize.parse s = .ok m → Converts tolerance o v (.memory m)
  | duration {d : Duration} : o.type = .duration → Converts tolerance o (.duration d) (.duration d)
  | readDuration {v : Value} {s : String} {d : Duration} : o.type = .duration → v.text tolerance = .ok s →
      Duration.parse s = .ok d → Converts tolerance o v (.duration d)
  | split {s : String} : o.type = .list → Converts tolerance o (.str s) (.list ((splitList s).map .str))
  | list {items : List Value} {ts : List String} : o.type = .list → texts tolerance items = .ok ts →
      Converts tolerance o (.list items) (.list (ts.map .str))
  | knot {text : Except Failure String} {items : List Value} {ts : List String} : o.type = .list →
      texts tolerance items = .ok ts → Converts tolerance o (.knot true text items) (.list (ts.map .str))
  | tuple {items : List Value} {ts : List String} : o.type = .list → texts tolerance items = .ok ts →
      Converts tolerance o (.tuple items) (.list (ts.map .str))

/-- A conversion that succeeds is one of these. -/
theorem converts_of_convert {tolerance : Tolerance} {o : ConfigOption} {v w : Value}
    (h : o.convert tolerance v = .ok w) : o.Converts tolerance v w := by
  unfold convert at h
  split at h
  case h_1 => cases h
  case h_2 ht _ =>
    obtain ⟨s, hs, h⟩ := bind_eq_ok.1 h
    cases h
    exact .string ht hs
  case h_3 ht => cases h; exact .integer ht
  case h_4 ht _ _ =>
    obtain ⟨s, hs, h⟩ := bind_eq_ok.1 h
    split at h
    · next hi => cases h; exact .readInteger ht hs hi
    · cases h
  case h_5 ht => cases h; exact .boolean ht
  case h_6 ht _ _ =>
    obtain ⟨s, hs, h⟩ := bind_eq_ok.1 h
    split at h
    · next hb => cases h; exact .readBoolean ht hs hb
    · cases h
  case h_7 ht => cases h; exact .memory ht
  case h_8 ht _ _ =>
    obtain ⟨s, hs, h⟩ := bind_eq_ok.1 h
    obtain ⟨m, hm, h⟩ := bind_eq_ok.1 h
    cases h
    exact .readMemory ht hs hm
  case h_9 ht => cases h; exact .duration ht
  case h_10 ht _ _ =>
    obtain ⟨s, hs, h⟩ := bind_eq_ok.1 h
    obtain ⟨d, hd, h⟩ := bind_eq_ok.1 h
    cases h
    exact .readDuration ht hs hd
  case h_11 ht => cases h; exact .split ht
  case h_12 ht =>
    obtain ⟨ts, hts, h⟩ := bind_eq_ok.1 h
    cases h
    exact .list ht hts
  case h_13 ht =>
    obtain ⟨ts, hts, h⟩ := bind_eq_ok.1 h
    cases h
    exact .knot ht hts
  case h_14 ht =>
    obtain ⟨ts, hts, h⟩ := bind_eq_ok.1 h
    cases h
    exact .tuple ht hts
  case h_15 =>
    obtain ⟨s, -, h⟩ := bind_eq_ok.1 h
    cases h

/-- A converted value is of the type of the option. -/
theorem holds_of_convert {tolerance : Tolerance} {o : ConfigOption} {v w : Value}
    (h : o.convert tolerance v = .ok w) : o.type.holds w = true := by
  have texts_hold (ts : List String) : (ts.map Value.str).all OptionType.isText = true := by
    simp [OptionType.isText]
  cases converts_of_convert h with
  | string ht | integer ht | readInteger ht | boolean ht | readBoolean ht | memory ht | readMemory ht
  | duration ht | readDuration ht => rw [ht, OptionType.holds]
  | split ht | list ht | knot ht | tuple ht => rw [ht, OptionType.holds, texts_hold]

end ConfigOption

namespace Configuration

/-- Converts a value by the option with the given key; values of unknown keys stay as they are. -/
def convertEntry (tolerance : Tolerance) (key : String) (v : Value) : Except Failure Value :=
  match ConfigOption.known? key with
  | some o => o.convert tolerance v
  | none => .ok v

theorem fits_of_convertEntry {tolerance : Tolerance} {key : String} {v w : Value}
    (h : convertEntry tolerance key v = .ok w) : fits key w = true := by
  unfold convertEntry at h
  unfold fits
  split at h
  · next o ho => simpa [ho] using ConfigOption.holds_of_convert h
  · next ho => simp [ho]

/-- The configuration without entries. -/
def empty : Configuration := ⟨.empty, by simp [Ordered.empty]⟩

instance : Inhabited Configuration := ⟨empty⟩

/-- The configuration of some values, each converted by its option. -/
def ofValues (tolerance : Tolerance) (values : Ordered Value) : Except Failure Configuration :=
  match h : values.traverse (convertEntry tolerance) with
  | .error f => .error f
  | .ok converted =>
    .ok ⟨converted, fun e he => by
      obtain ⟨v, -, hv⟩ := Ordered.mem_traverseEntries (Ordered.traverse_eq_ok.1 h) he
      exact fits_of_convertEntry hv⟩

/-- The keys in order. -/
def keys (c : Configuration) : List String := c.values.keys

def entries (c : Configuration) : List (String × Value) := c.values.entries

/-- The value stored under a key. -/
def get? (c : Configuration) (key : String) : Option Value :=
  c.values.get? key

/-- The value stored under a key, which has to be there. -/
def get (c : Configuration) (key : String) : Except Failure Value :=
  match c.get? key with
  | some v => .ok v
  | none => .error (.keyMissing key)

/-- Whether an option is set. -/
def contains (c : Configuration) (o : ConfigOption) : Bool :=
  (c.get? o.key).isSome

/-- The value of an option: the stored one, or else the default. -/
def value? (c : Configuration) (o : ConfigOption) : Option Value :=
  (c.get? o.key).or o.default

/-- The configuration with a key set to a value. -/
def set (tolerance : Tolerance) (c : Configuration) (key : String) (v : Value) :
    Except Failure Configuration :=
  ofValues tolerance (c.values.put key v)

/-- The values that other values override are compared with them and, where they differ, traced, old and new, so
they must have a text. -/
def traceOverrides (c : Configuration) : List (String × Value) → Except Failure Unit
  | [] => .ok ()
  | (k, v) :: es => do
    match c.get? k with
    | some old =>
      if !(← old.compare v) then
        discard old.quoted
        discard v.quoted
    | none => pure ()
    c.traceOverrides es

/-- The configuration with other values put on top. -/
def merge (tolerance : Tolerance) (c : Configuration) (other : Ordered Value) :
    Except Failure Configuration := do
  c.traceOverrides other.entries
  ofValues tolerance (c.values.putAll other.entries)

/-- The text of a stored value. -/
def formatEntry (tolerance : Tolerance) (key : String) (v : Value) : Except Failure String :=
  match ConfigOption.known? key with
  | some o => o.format tolerance v
  | none => v.text tolerance

/-- The values as texts that the options can read back. -/
def toStrings (tolerance : Tolerance) (c : Configuration) : Except Failure (Ordered String) :=
  c.values.traverse (formatEntry tolerance)

/-- The text of a whole configuration in traces. -/
def quoted (c : Configuration) : Except Failure String := do
  return "Configuration(" ++ (← (Value.ofEntries c.entries).quoted) ++ ")"

mutual

/-- Puts a value under a key of a flat mapping: for a mapping its own flat form, whose keys stand behind the
key and a dot, and for a missing value nothing. A mapping that contains itself has no flat form. -/
def flattenValue (tolerance : Tolerance) (flat : Ordered Value) (key : String) :
    Value → Except Failure (Ordered Value)
  | .mapping es => do return flat.putAll (← flattenEntries tolerance (key ++ ".") .empty es).entries
  | .null => .ok flat
  | .knot false _ _ => .error .endlessNesting
  | v => .ok (flat.put key v)
termination_by structural v => v

/-- Puts some entries into a flat mapping, one after the other, their keys behind a path. -/
def flattenEntries (tolerance : Tolerance) (path : String) (flat : Ordered Value) :
    List (Value × Value) → Except Failure (Ordered Value)
  | [] => .ok flat
  | e :: es => do flattenEntries tolerance path (← flattenEntry tolerance path flat e) es
termination_by structural es => es

def flattenEntry (tolerance : Tolerance) (path : String) (flat : Ordered Value) :
    Value × Value → Except Failure (Ordered Value)
  | (k, v) => do flattenValue tolerance flat (path ++ (← k.text tolerance)) v
termination_by structural e => e

end

/-- A nested mapping as one mapping whose keys are the paths to its leaves, joined by dots. -/
def flatten (tolerance : Tolerance) (tree : List (Value × Value)) :
    Except Failure (Ordered Value) :=
  flattenEntries tolerance "" .empty tree

/-- The configuration of a nested mapping. -/
def ofTree (tolerance : Tolerance) (tree : List (Value × Value)) :
    Except Failure Configuration := do
  ofValues tolerance (← flatten tolerance tree)

end Configuration

end ClusterPlan
