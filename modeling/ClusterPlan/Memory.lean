import ClusterPlan.Binary64.Basic
import ClusterPlan.Failure
import ClusterPlan.Text.Numeral

/-!
# Memory sizes

A memory size is a whole number of bytes. It is read from a quantity whose unit is a power of 1024
and defaults to megabytes, and shown in the largest unit in which rounding to a whole number stays
within a tolerance.
-/

namespace ClusterPlan

/-- The units of memory. -/
inductive MemoryUnit where
  | byte
  | kilo
  | mega
  | giga
  | tera
deriving DecidableEq, Repr

namespace MemoryUnit

/-- The bytes in a unit. -/
def factor : MemoryUnit → Nat
  | byte => 1
  | kilo => 1024
  | mega => 1024 * 1024
  | giga => 1024 * 1024 * 1024
  | tera => 1024 * 1024 * 1024 * 1024

def symbol : MemoryUnit → String
  | byte => "b"
  | kilo => "kb"
  | mega => "mb"
  | giga => "gb"
  | tera => "tb"

/-- The unit with a given name in lower case; no name means megabytes. -/
def ofName? (name : String) : Option MemoryUnit :=
  if name ∈ ["b", "bytes"] then some byte
  else if name ∈ ["k", "kb", "kibibytes"] then some kilo
  else if name ∈ ["", "m", "mb", "mebibytes"] then some mega
  else if name ∈ ["g", "gb", "gibibytes"] then some giga
  else if name ∈ ["t", "tb", "tebibytes"] then some tera
  else none

/-- The units from the largest to the smallest. -/
def descending : List MemoryUnit := [tera, giga, mega, kilo, byte]

theorem factor_pos (u : MemoryUnit) : 0 < u.factor := by
  cases u <;> decide

end MemoryUnit

/-- An amount of memory in bytes. -/
structure MemorySize where
  bytes : Int
deriving DecidableEq, Repr, Inhabited

/-- How much rounding may change a size that is shown, relative to the size. -/
inductive Tolerance where
  | ratio (limit : Binary64)
  | whole (limit : Int)
  /-- The setting holds something that no number can be compared with. -/
  | unusable (failure : Failure)
deriving DecidableEq, Repr

/-- One part in ten. -/
def Tolerance.standard : Tolerance := .ratio (.ofRatio false 1 10)

/-- Whether a relative error is within the tolerance. -/
def Tolerance.allows (t : Tolerance) (error : Binary64) : Except Failure Bool :=
  match t with
  | .ratio limit => .ok (error.le limit)
  | .whole limit => .ok (error.compareInt? limit == some .lt || error.compareInt? limit == some .eq)
  | .unusable failure => .error failure

namespace MemorySize

/-- A number of megabytes. -/
def ofMegabytes (n : Int) : MemorySize := ⟨n * MemoryUnit.mega.factor⟩

/-- The whole megabytes in a size, rounded down. -/
def megabytes (m : MemorySize) : Int := m.bytes.fdiv MemoryUnit.mega.factor

/-- Reads a size. A size is positive. -/
def parse (s : String) : Except Failure MemorySize :=
  match Text.Quantity.read? s.toList with
  | none => .error (.memoryText s)
  | some q =>
    match MemoryUnit.ofName? q.unitName with
    | none => .error (.memoryUnit q.unitText s)
    | some unit => do
      let n ← readDigits q.digits
      if n = 0 then .error (.memoryNotPositive s) else .ok ⟨n * unit.factor⟩

/-- The size in bytes with the unit. -/
def exactText (m : MemorySize) : Except Failure String := do
  return (← writeInt m.bytes) ++ "b"

/-- The quotient of two whole numbers as a floating-point number. -/
def quotient (num : Int) (den : Nat) : Except Failure Binary64 :=
  match Binary64.ofRatio (decide (num < 0)) num.natAbs den with
  | .infinity _ => .error .ratioTooLarge
  | x => .ok x

/-- The size in the first of the units in which it is at least one and rounding it stays within the
tolerance. The size in bytes is always good enough. -/
def showIn (tolerance : Tolerance) (m : MemorySize) : List MemoryUnit → Except Failure String
  | [] => m.exactText
  | unit :: smaller => do
    let amount ← quotient m.bytes unit.factor
    if amount.compareInt? 1 == some .lt then
      m.showIn tolerance smaller
    else
      let rounded := amount.round?.getD 0
      let error ← quotient (rounded * unit.factor - m.bytes).natAbs m.bytes.toNat
      if (← tolerance.allows error) || unit = .byte then
        return (← writeInt rounded) ++ unit.symbol
      else
        m.showIn tolerance smaller

/-- The text of a size. -/
def text (tolerance : Tolerance) (m : MemorySize) : Except Failure String :=
  m.showIn tolerance MemoryUnit.descending

/-- The order of sizes. -/
def lt (a b : MemorySize) : Bool := a.bytes < b.bytes

end MemorySize

end ClusterPlan
