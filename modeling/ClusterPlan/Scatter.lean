/-!
# Scatter tables

A scatter table keeps each of its entries at a place that follows from the entry's code. An entry whose
place is taken goes to one of the next places or, where these are taken too, jumps on. The table grows
before it is three fifths full, and its entries are listed in the order of their places.
-/

namespace ClusterPlan

/-- The places of a scatter table. Their number is a power of two, and some of them are free. -/
structure Scatter (α : Type) where
  places : Array (Option α)

namespace Scatter

variable {α : Type}

/-- The number of places of the smallest table. -/
def leastSize : Nat := 8

/-- How many places behind the first one an entry tries before it jumps. -/
def neighbours : Nat := 9

/-- By how many bits the code of an entry is shifted at each jump. -/
def shift : UInt64 := 5

/-- A table without entries. -/
def empty (size : Nat) : Scatter α := ⟨.replicate size none⟩

/-- The entries in the order of their places. -/
def toList (t : Scatter α) : List α :=
  t.places.toList.filterMap id

/-- Whether a place is free. -/
def isFree (t : Scatter α) (place : Nat) : Bool :=
  (t.places[place]?.getD none).isNone

/-- The places that are tried before the next jump. Those close to the end have no neighbours. -/
def candidates (t : Scatter α) (place : Nat) : List Nat :=
  if place + neighbours < t.places.size then (List.range (neighbours + 1)).map (place + ·) else [place]

/-- The first free place on the way that begins at `place`. The jumps come to every place as soon as
nothing is left of the code, so the number of places and of shifts is fuel enough. -/
def freePlace (t : Scatter α) : (fuel : Nat) → (code place : UInt64) → Nat
  | 0, _, place => place.toNat
  | fuel + 1, code, place =>
    match (t.candidates place.toNat).find? t.isFree with
    | some free => free
    | none =>
      let code := code >>> shift
      t.freePlace fuel code ((place * 5 + 1 + code) % .ofNat t.places.size)

/-- Puts an entry with a code into a table with a free place. -/
def insert (code : α → UInt64) (t : Scatter α) (x : α) : Scatter α :=
  let start := code x % .ofNat t.places.size
  ⟨t.places.setIfInBounds (t.freePlace (t.places.size + 14) (code x) start) (some x)⟩

/-- The size of a table that has more than `count` places. -/
def sizeAbove (count : Nat) : Nat :=
  leastSize <<< ((List.range 64).find? fun k => count < leastSize <<< k).getD 64

/-- Whether so many entries are too many for a table of a size. -/
def isCrowded (count size : Nat) : Bool :=
  3 * (size - 1) ≤ 5 * count

/-- The size to which a table grows that has become too small for so many entries. -/
def grownSize (count : Nat) : Nat :=
  sizeAbove (if 50000 < count then 2 * count else 4 * count)

/-- Puts an entry into a table of `count` entries, which grows if need be. -/
def add (code : α → UInt64) (t : Scatter α) (count : Nat) (x : α) : Scatter α :=
  let t := t.insert code x
  if isCrowded (count + 1) t.places.size then
    t.toList.foldl (insert code) (empty (grownSize (count + 1)))
  else
    t

/-- Puts entries into a table of `count` entries, one after another. -/
def addAll (code : α → UInt64) : (count : Nat) → Scatter α → List α → Scatter α
  | _, t, [] => t
  | count, t, x :: xs => addAll code (count + 1) (t.add code count x) xs

/-- The table of some entries. -/
def ofList (code : α → UInt64) (xs : List α) : Scatter α :=
  addAll code 0 (empty leastSize) xs

/-- The table of some entries whose number is known beforehand. -/
def ofCounted (code : α → UInt64) (xs : List α) : Scatter α :=
  let size := if isCrowded xs.length leastSize then sizeAbove (2 * xs.length) else leastSize
  addAll code 0 (empty size) xs

end Scatter

end ClusterPlan
