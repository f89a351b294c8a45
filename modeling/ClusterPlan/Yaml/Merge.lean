import ClusterPlan.Yaml.Graph

/-!
# Merge keys

A mapping takes over the entries of the mappings that its merge keys name. They stand in front of its own
entries, which thereby prevail, and of several mappings that one key names the first prevails. A mapping
that names itself takes over what it has besides.
-/

namespace ClusterPlan.Yaml

/-- What changes the nodes of a document; there is no result where the document is malformed. -/
abbrev Editor := StateT (Array Node) Option

namespace Editor

def malformed {α : Type} : Editor α := fun _ => none

/-- The node with a number. -/
def node (number : Nat) : Editor Node := do
  return (← get)[number]?.getD .empty

/-- The entries of a mapping. -/
def entries (number : Nat) : Editor (List (Nat × Nat)) := do
  match ← node number with
  | .mapping _ entries => return entries
  | _ => malformed

/-- Gives a mapping other entries. -/
def setEntries (number : Nat) (entries : List (Nat × Nat)) : Editor Unit := do
  match ← node number with
  | .mapping tag _ => modify (·.setIfInBounds number (.mapping tag entries))
  | _ => malformed

/-- Makes a value key an ordinary key. -/
def makeOrdinary (number : Nat) : Editor Unit := do
  let n : Node := match ← node number with
    | .scalar _ text => .scalar .str text
    | .sequence _ items => .sequence .str items
    | .mapping _ entries => .mapping .str entries
  modify (·.setIfInBounds number n)

/-- The entries that the value of a merge key brings in, where `resolve` replaces the merge keys of a
mapping. -/
def broughtIn (resolve : Nat → Editor Unit) (number : Nat) : Editor (List (Nat × Nat)) := do
  match ← node number with
  | .scalar .. => malformed
  | .mapping .. =>
    resolve number
    entries number
  | .sequence _ items =>
    let lists ← items.mapM fun item => do
      match ← node item with
      | .mapping .. =>
        resolve item
        entries item
      | _ => malformed
    return lists.reverse.flatten

/-- Takes the merge keys from position `index` on out of a mapping, and returns what they bring in. There
are at most `steps` entries to look at. -/
def takeMerges (resolve : Nat → Editor Unit) (number : Nat) :
    (steps index : Nat) → Editor (List (Nat × Nat))
  | 0, _ => return []
  | steps + 1, index => do
    let entries ← entries number
    match entries[index]? with
    | none => return []
    | some (key, value) =>
      match (← node key).tag with
      | .merge =>
        setEntries number (entries.eraseIdx index)
        let first ← broughtIn resolve value
        return first ++ (← takeMerges resolve number steps index)
      | .value =>
        makeOrdinary key
        takeMerges resolve number steps (index + 1)
      | _ => takeMerges resolve number steps (index + 1)

/-- Puts the entries that the merge keys of a mapping bring in in the place of these keys. The fuel bounds
how many merge keys lead from one mapping to the next; a key that leads on is no longer there. -/
def resolveMerges : (fuel : Nat) → (number : Nat) → Editor Unit
  | 0, _ => malformed
  | fuel + 1, number => do
    let count := (← entries number).length
    let merged ← takeMerges (resolveMerges fuel) number count 0
    setEntries number (merged ++ (← entries number))

end Editor

end ClusterPlan.Yaml
