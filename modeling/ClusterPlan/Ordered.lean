/-!
# Ordered mappings

A mapping from texts to values that remembers the order in which its keys were first put. Putting a
value under a key that is present replaces the value and leaves the key where it is; a new key goes to
the end. No key occurs twice.
-/

namespace ClusterPlan

/-- Entries with distinct keys, in order. -/
structure Ordered (α : Type) where
  entries : List (String × α)
  distinct : (entries.map Prod.fst).Nodup

namespace Ordered

variable {α β : Type}

instance : Inhabited (Ordered α) := ⟨⟨[], .nil⟩⟩

/-- The keys in order. -/
def keys (m : Ordered α) : List String :=
  m.entries.map Prod.fst

/-- The number of entries. -/
def size (m : Ordered α) : Nat :=
  m.entries.length

/-- The value of the first entry with the given key. -/
def lookup (k : String) : List (String × α) → Option α
  | [] => none
  | (k', v) :: es => if k' = k then some v else lookup k es

/-- The value under a key. -/
def get? (m : Ordered α) (k : String) : Option α :=
  lookup k m.entries

def contains (m : Ordered α) (k : String) : Bool :=
  (m.get? k).isSome

/-- Replaces the value of a key, or adds the key at the end. -/
def putEntry (k : String) (v : α) : List (String × α) → List (String × α)
  | [] => [(k, v)]
  | (k', v') :: es => if k' = k then (k, v) :: es else (k', v') :: putEntry k v es

/-- Putting a key that is present keeps the keys; a new key goes to the end. -/
theorem keys_putEntry (k : String) (v : α) (es : List (String × α)) :
    (putEntry k v es).map Prod.fst =
      if k ∈ es.map Prod.fst then es.map Prod.fst else es.map Prod.fst ++ [k] := by
  induction es with
  | nil => simp [putEntry]
  | cons e es ih =>
    obtain ⟨k', v'⟩ := e
    by_cases h : k' = k
    · simp [putEntry, h]
    · have h' : k ≠ k' := fun e => h e.symm
      simp only [putEntry, if_neg h, List.map_cons, List.mem_cons, ih, h', false_or]
      split <;> simp

theorem nodup_putEntry (k : String) (v : α) {es : List (String × α)}
    (h : (es.map Prod.fst).Nodup) : ((putEntry k v es).map Prod.fst).Nodup := by
  rw [keys_putEntry]
  split
  · exact h
  · next hk =>
    refine List.nodup_append.2 ⟨h, by simp, fun a ha b hb => ?_⟩
    rintro rfl
    exact hk (List.mem_singleton.1 hb ▸ ha)

/-- Puts a value under a key. -/
def put (m : Ordered α) (k : String) (v : α) : Ordered α :=
  ⟨putEntry k v m.entries, nodup_putEntry k v m.distinct⟩

/-- The mapping without entries. -/
def empty : Ordered α := ⟨[], .nil⟩

/-- Puts entries one after another. -/
def putAll (m : Ordered α) (es : List (String × α)) : Ordered α :=
  es.foldl (fun m e => m.put e.1 e.2) m

/-- The mapping of some entries: of several with one key the last one counts, at the place of the
first. -/
def ofList (es : List (String × α)) : Ordered α :=
  empty.putAll es

/-- The keys of entries whose values are mapped. -/
theorem keys_map (f : String → α → β) (es : List (String × α)) :
    (es.map fun e => (e.1, f e.1 e.2)).map Prod.fst = es.map Prod.fst := by
  induction es with
  | nil => rfl
  | cons e es ih => simp

/-- Applies a function to every value. -/
def map (f : String → α → β) (m : Ordered α) : Ordered β :=
  ⟨m.entries.map fun e => (e.1, f e.1 e.2), by rw [keys_map]; exact m.distinct⟩

/-- Applies a function that can fail to the values of some entries, in order. -/
def traverseEntries {ε : Type} (f : String → α → Except ε β) :
    List (String × α) → Except ε (List (String × β))
  | [] => .ok []
  | (k, v) :: es => do
    let w ← f k v
    let rest ← traverseEntries f es
    return (k, w) :: rest

/-- What `traverseEntries` gives for one more entry. -/
theorem traverseEntries_cons_eq_ok {ε : Type} {f : String → α → Except ε β} {k : String} {v : α}
    {es : List (String × α)} {r : List (String × β)} :
    traverseEntries f ((k, v) :: es) = .ok r ↔
      ∃ w rest, f k v = .ok w ∧ traverseEntries f es = .ok rest ∧ r = (k, w) :: rest := by
  simp only [traverseEntries, bind, Except.bind, pure, Except.pure]
  cases f k v with
  | error e => simp
  | ok w =>
    cases traverseEntries f es with
    | error e => simp
    | ok rest => simp [eq_comm]

theorem keys_traverseEntries {ε : Type} {f : String → α → Except ε β} {es : List (String × α)}
    {r : List (String × β)} (h : traverseEntries f es = .ok r) :
    r.map Prod.fst = es.map Prod.fst := by
  induction es generalizing r with
  | nil => cases h; rfl
  | cons e es ih =>
    obtain ⟨w, rest, -, hrest, rfl⟩ := traverseEntries_cons_eq_ok.1 h
    simp [ih hrest]

/-- Every entry of the result comes from an entry of the argument. -/
theorem mem_traverseEntries {ε : Type} {f : String → α → Except ε β} {es : List (String × α)}
    {r : List (String × β)} (h : traverseEntries f es = .ok r) {k : String} {w : β}
    (hw : (k, w) ∈ r) : ∃ v, (k, v) ∈ es ∧ f k v = .ok w := by
  induction es generalizing r with
  | nil => cases h; cases hw
  | cons e es ih =>
    obtain ⟨w', rest, hf, hrest, rfl⟩ := traverseEntries_cons_eq_ok.1 h
    rcases List.mem_cons.1 hw with heq | hmem
    · obtain ⟨rfl, rfl⟩ := Prod.mk.injEq .. ▸ heq
      exact ⟨e.2, List.mem_cons_self, hf⟩
    · obtain ⟨v, hv, hfv⟩ := ih hrest hmem
      exact ⟨v, List.mem_cons_of_mem _ hv, hfv⟩

/-- Applies a function that can fail to every value, in order. -/
def traverse {ε : Type} (f : String → α → Except ε β) (m : Ordered α) : Except ε (Ordered β) :=
  match h : traverseEntries f m.entries with
  | .error e => .error e
  | .ok es => .ok ⟨es, by rw [keys_traverseEntries h]; exact m.distinct⟩

theorem traverse_eq_ok {ε : Type} {f : String → α → Except ε β} {m : Ordered α} {n : Ordered β} :
    traverse f m = .ok n ↔ traverseEntries f m.entries = .ok n.entries := by
  unfold traverse
  split
  · next e h => simp [h]
  · next es h =>
    constructor
    · intro e
      cases e
      exact h
    · intro e
      obtain ⟨ns, hn⟩ := n
      cases h.symm.trans e
      rfl

theorem ext {m n : Ordered α} (h : m.entries = n.entries) : m = n := by
  cases m; cases n; cases h; rfl

end Ordered

end ClusterPlan
