import ClusterPlan.Value

/-!
# Tables under construction

The tables of a document while it is read. A table is declared once by its header, and the tables that
a dotted key leads through belong to the section in which they are first written; tables and lists that
are written as values can no longer be changed. Every operation gives `none` where a document would
break one of these rules.
-/

namespace ClusterPlan.Toml

/-- How a table came about. -/
inductive Origin where
  /-- It contains a table with a header of its own. -/
  | implied
  /-- A dotted key of the section with the given number leads through it. -/
  | dotted (section_ : Nat)
  /-- It has a header. -/
  | declared
deriving DecidableEq, Repr

/-- What stands under a key. -/
inductive Item where
  | value (v : Value)
  | table (origin : Origin) (entries : List (String × Item))
  /-- The tables under a header that can be repeated, the last one first. -/
  | tables (last : List (String × Item)) (before : List (List (String × Item)))

/-- The entries of a table. -/
abbrev Entries := List (String × Item)

/-- Whether a table can no longer be extended by a dotted key of a section, nor be declared. -/
def Origin.isClosed (current : Nat) : Origin → Bool
  | .implied => false
  | .dotted s => s != current
  | .declared => true

/-- Changes the item under a key, or makes one. -/
def alter (k : String) (f : Option Item → Option Item) : Entries → Option Entries
  | [] => (f none).map fun i => [(k, i)]
  | (k', i) :: es =>
    if k' = k then (f (some i)).map fun i => (k, i) :: es
    else (alter k f es).map ((k', i) :: ·)

/-- Changes the table that a path of headers leads to, making the tables on the way. -/
def alterAt (f : Entries → Option Entries) : List String → Entries → Option Entries
  | [], es => f es
  | k :: path, es =>
    alter k (fun
      | none => (alterAt f path []).map (.table .implied)
      | some (.table origin inner) => (alterAt f path inner).map (.table origin)
      | some (.tables last before) => (alterAt f path last).map (.tables · before)
      | some (.value _) => none) es

/-- Declares the table under the last key of a header. -/
def declareTable (current : Nat) (path : List String) (last : String) (es : Entries) :
    Option Entries :=
  alterAt (alter last fun
    | none => some (.table .declared [])
    | some (.table origin inner) =>
      if origin.isClosed current then none else some (.table .declared inner)
    | some _ => none) path es

/-- Adds a table to those under the last key of a header. -/
def appendTable (path : List String) (last : String) (es : Entries) : Option Entries :=
  alterAt (alter last fun
    | none => some (.tables [] [])
    | some (.tables t before) => some (.tables [] (t :: before))
    | some _ => none) path es

/-- Puts a value under a dotted key. -/
def putValue (current : Nat) (v : Value) : List String → Entries → Option Entries
  | [], _ => none
  | [k], es => alter k (fun
    | none => some (.value v)
    | some _ => none) es
  | k :: path, es =>
    alter k (fun
      | none => (putValue current v path []).map (.table (.dotted current))
      | some (.table origin inner) =>
        if origin.isClosed current then none
        else (putValue current v path inner).map (.table (.dotted current))
      | some _ => none) es

mutual

/-- The finished value of an item. -/
def Item.toValue : Item → Value
  | .value v => v
  | .table _ es => .mapping (valuesOf es)
  | .tables last before => .list (valuesOfAll before ++ [.mapping (valuesOf last)])
termination_by structural i => i

/-- The finished values of some entries. -/
def valuesOf : List (String × Item) → List (Value × Value)
  | [] => []
  | e :: es => valueOf e :: valuesOf es
termination_by structural es => es

def valueOf : String × Item → Value × Value
  | (k, i) => (.str k, i.toValue)
termination_by structural e => e

/-- The finished tables, the last one at the end. -/
def valuesOfAll : List (List (String × Item)) → List Value
  | [] => []
  | t :: ts => valuesOfAll ts ++ [.mapping (valuesOf t)]
termination_by structural ts => ts

end

end ClusterPlan.Toml
