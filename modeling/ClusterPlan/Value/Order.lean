import ClusterPlan.Scatter
import ClusterPlan.Value

/-!
# The order of a set

A set of numbers is shown in the order in which a scatter table keeps them; the code of a number is its
remainder by a prime, whatever the kind of the number. Other sets are shown in the order in which they are
written. A copy of a set is a table that has grown with its entries, so its order may differ from that of
the set.
-/

namespace ClusterPlan.Value

/-- The modulus of the codes of numbers. -/
def codeModulus : Nat := (1 <<< 61) - 1

/-- The code of an infinite number without its sign. -/
def infinityCode : Nat := 314159

/-- A code with a sign. There is no code minus one. -/
def signedCode (negative : Bool) (code : Nat) : UInt64 :=
  if !negative then .ofNat code
  else if code = 1 then .ofNat ((1 <<< 64) - 2)
  else .ofNat ((1 <<< 64) - code)

/-- The code of a number: equal numbers have one code. What is not a number has none. -/
def numberCode? : Value → Option UInt64
  | bool b => some (if b then 1 else 0)
  | int i => some (signedCode (i < 0) (i.natAbs % codeModulus))
  | float (.finite s m e) => some (signedCode s (m <<< (e % 61).toNat % codeModulus))
  | float (.infinity s) => some (signedCode s infinityCode)
  | _ => none

/-- The entries of a set, each with its code, if all of them are numbers. -/
def withCodes? {α : Type} (value : α → Value) (items : List α) : Option (List (α × UInt64)) :=
  items.mapM fun x => (numberCode? (value x)).map (x, ·)

/-- The entries of a set in order, as they are when all of them are put into it at once. -/
def orderSet {α : Type} (value : α → Value) (items : List α) : List α :=
  match withCodes? value items with
  | some coded => (Scatter.ofCounted Prod.snd coded).toList.map Prod.fst
  | none => items

/-- The entries of the copy of a set in order. -/
def copySet (items : List Value) : List Value :=
  match withCodes? id items with
  | some coded => (Scatter.ofList Prod.snd coded).toList.map Prod.fst
  | none => items

mutual

/-- The copy of a value. It differs from the value at most in the order of sets. -/
def copy : Value → Value
  | list items => list (copyItems items)
  | tuple items => tuple (copyItems items)
  | set items => set (copySet items)
  | mapping entries => mapping (copyEntries entries)
  | null => null
  | bool b => bool b
  | int i => int i
  | float x => float x
  | str s => str s
  | memory m => memory m
  | duration d => duration d
  | moment m => moment m
  | bytes data => bytes data
  | knot isList text items => knot isList text items
termination_by structural v => v

/-- The copies of some values. -/
def copyItems : List Value → List Value
  | [] => []
  | v :: vs => copy v :: copyItems vs
termination_by structural vs => vs

/-- The copies of some entries. -/
def copyEntries : List (Value × Value) → List (Value × Value)
  | [] => []
  | e :: es => copyEntry e :: copyEntries es
termination_by structural es => es

def copyEntry : Value × Value → Value × Value
  | (k, v) => (k, copy v)
termination_by structural e => e

end

end ClusterPlan.Value
