import Mathlib.Data.List.Induction
import ClusterPlan.Proofs.Conversion
import ClusterPlan.Proofs.Digits

/-!
# Nested mappings as configurations

A nested mapping is flattened level by level: each mapping inside it is flattened on its own, and its flat
form is put into that of the mapping around it. What comes out depends on the leaves alone, which are what is
neither a mapping nor missing, each under the path that leads to it (`Leaves`): it is what comes of putting
them one after the other in the order of the document (`Leaves.flatten_eq`). So the keys stand where they
occurred first and have the value that occurred last, at whatever depth, and the same leaves give the same
configuration, however they are nested. The main statement is `ofTree_leaves`.
-/

namespace ClusterPlan

/-- A leaf of a nested mapping is neither a mapping, be it one that contains itself, nor missing. -/
def Value.isLeaf : Value → Bool
  | .mapping _ | .null | .knot false _ _ => false
  | _ => true

namespace Configuration

section
variable {tolerance : Tolerance} {tree : List (Value × Value)} {ls : List (String × Value)}

/-! ## Leaves -/

/-- The leaves of a nested mapping in the order of the document, each under the texts of the keys that lead
to it, joined by dots. -/
inductive Leaves (tolerance : Tolerance) : List (Value × Value) → List (String × Value) → Prop
  | nil : Leaves tolerance [] []
  | missing {k : Value} {name : String} {es : List (Value × Value)} {ls : List (String × Value)} :
      k.text tolerance = .ok name → Leaves tolerance es ls → Leaves tolerance ((k, .null) :: es) ls
  | leaf {k v : Value} {name : String} {es : List (Value × Value)} {ls : List (String × Value)} :
      k.text tolerance = .ok name → v.isLeaf = true → Leaves tolerance es ls →
      Leaves tolerance ((k, v) :: es) ((name, v) :: ls)
  | mapping {k : Value} {name : String} {inner es : List (Value × Value)}
      {ms ls : List (String × Value)} :
      k.text tolerance = .ok name → Leaves tolerance inner ms → Leaves tolerance es ls →
      Leaves tolerance ((k, .mapping inner) :: es)
        (ms.map (fun l => (name ++ "." ++ l.1, l.2)) ++ ls)

/-- A leaf is put under its key. -/
theorem flattenValue_of_isLeaf {v : Value} (h : v.isLeaf = true) (flat : Ordered Value) (key : String) :
    flattenValue tolerance flat key v = .ok (flat.put key v) := by
  cases v with
  | mapping _ => cases h
  | null => cases h
  | knot isList _ _ => cases isList with
    | true => rfl
    | false => cases h
  | _ => rfl

/-- Flattening some entries comes to putting their leaves, one after the other. -/
theorem Leaves.flattenEntries_eq (h : Leaves tolerance tree ls) (path : String) (flat : Ordered Value) :
    flattenEntries tolerance path flat tree =
      .ok (flat.putAll (ls.map fun l => (path ++ l.1, l.2))) := by
  induction h generalizing path flat with
  | nil => rfl
  | missing hk _ ih =>
    rw [flattenEntries, flattenEntry, hk]
    exact ih path flat
  | @leaf k v name es ls hk hv _ ih =>
    have hstep : flattenEntry tolerance path flat (k, v) = .ok (flat.put (path ++ name) v) := by
      rw [flattenEntry, hk]
      exact flattenValue_of_isLeaf hv flat (path ++ name)
    rw [flattenEntries, hstep]
    exact ih path (flat.put (path ++ name) v)
  | @mapping k name inner es ms ls hk _ _ ihinner ih =>
    -- the flat form of the inner mapping is put as a whole, which comes to putting its leaves
    let inside := ms.map fun l => (path ++ name ++ "." ++ l.1, l.2)
    have hstep : flattenEntry tolerance path flat (k, .mapping inner) = .ok (flat.putAll inside) := by
      rw [flattenEntry, hk]
      show (do return flat.putAll (← flattenEntries tolerance (path ++ name ++ ".") .empty inner).entries)
        = Except.ok (flat.putAll inside)
      rw [ihinner (path ++ name ++ ".") .empty]
      exact congrArg Except.ok (Ordered.putAll_ofList flat inside)
    have hinside : (ms.map fun l => (name ++ "." ++ l.1, l.2)).map (fun l => (path ++ l.1, l.2)) =
        inside := by
      simp only [inside, List.map_map]
      refine List.map_congr_left fun l _ => ?_
      simp only [Function.comp_apply, String.append_assoc]
    rw [flattenEntries, hstep]
    show flattenEntries tolerance path (flat.putAll inside) es = _
    rw [ih path (flat.putAll inside), Ordered.putAll_putAll, List.map_append, hinside]

/-- **Flattening** a nested mapping comes to putting its leaves in the order of the document. -/
theorem Leaves.flatten_eq (h : Leaves tolerance tree ls) :
    flatten tolerance tree = .ok (.ofList ls) := by
  have hls : ls.map (fun l => ("" ++ l.1, l.2)) = ls := by
    simp
  rw [flatten, h.flattenEntries_eq, hls]
  rfl

/-- What can be flattened has leaves. -/
theorem exists_leaves_of_flattenEntries : ∀ {tree : List (Value × Value)} {path : String}
    {flat m : Ordered Value}, flattenEntries tolerance path flat tree = .ok m →
    ∃ ls, Leaves tolerance tree ls
  | [], _, _, _, _ => ⟨[], .nil⟩
  | (k, v) :: es, path, flat, m, h => by
    rw [flattenEntries] at h
    obtain ⟨flat', he, hes⟩ := bind_eq_ok.1 h
    rw [flattenEntry] at he
    obtain ⟨name, hk, hv⟩ := bind_eq_ok.1 he
    obtain ⟨ls, hls⟩ := exists_leaves_of_flattenEntries hes
    cases v with
    | mapping inner =>
      rw [flattenValue] at hv
      obtain ⟨m', hinner, -⟩ := bind_eq_ok.1 hv
      obtain ⟨ms, hms⟩ := exists_leaves_of_flattenEntries hinner
      exact ⟨_, .mapping hk hms hls⟩
    | null => exact ⟨_, .missing hk hls⟩
    | knot isList text items => cases isList with
      | true => exact ⟨_, .leaf hk rfl hls⟩
      | false => cases hv
    | _ => exact ⟨_, .leaf hk rfl hls⟩

/-- A mapping can be flattened exactly when it has leaves. -/
theorem exists_flatten_iff : (∃ m, flatten tolerance tree = .ok m) ↔ ∃ ls, Leaves tolerance tree ls := by
  constructor
  · rintro ⟨m, hm⟩
    exact exists_leaves_of_flattenEntries hm
  · rintro ⟨ls, hls⟩
    exact ⟨_, hls.flatten_eq⟩

/-! ## Other spellings -/

/-- The second nested mapping is the first one without some of the missing values in it and some of the
mappings that are empty or become so, at any depth. -/
inductive Pruned : List (Value × Value) → List (Value × Value) → Prop
  | nil : Pruned [] []
  | missing {k : Value} {es fs : List (Value × Value)} : Pruned es fs → Pruned ((k, .null) :: es) fs
  | empty {k : Value} {inner es fs : List (Value × Value)} :
      Pruned inner [] → Pruned es fs → Pruned ((k, .mapping inner) :: es) fs
  | inside {k : Value} {inner inner' es fs : List (Value × Value)} :
      Pruned inner inner' → Pruned es fs →
      Pruned ((k, .mapping inner) :: es) ((k, .mapping inner') :: fs)
  | keep {e : Value × Value} {es fs : List (Value × Value)} : Pruned es fs → Pruned (e :: es) (e :: fs)

/-- Pruning leaves the leaves as they are. -/
theorem Pruned.leaves {tree' : List (Value × Value)} (h : Pruned tree tree')
    (hls : Leaves tolerance tree ls) : Leaves tolerance tree' ls := by
  induction h generalizing ls with
  | nil => exact hls
  | missing _ ih =>
    cases hls with
    | missing _ hes => exact ih hes
    | leaf _ hv _ => cases hv
  | empty _ _ ihinner ih =>
    cases hls with
    | leaf _ hv _ => cases hv
    | mapping _ hinner hes =>
      cases ihinner hinner
      exact ih hes
  | inside _ _ ihinner ih =>
    cases hls with
    | leaf _ hv _ => cases hv
    | mapping hk hinner hes => exact .mapping hk (ihinner hinner) (ih hes)
  | keep _ ih =>
    cases hls with
    | missing hk hes => exact .missing hk (ih hes)
    | leaf hk hv hes => exact .leaf hk hv (ih hes)
    | mapping hk hinner hes => exact .mapping hk hinner (ih hes)

/-- The leaves of a flat mapping are its entries. -/
theorem leaves_of_flat : ∀ {es : List (String × Value)}, (∀ e ∈ es, e.2.isLeaf = true) →
    Leaves tolerance (es.map fun e => (.str e.1, e.2)) es
  | [], _ => .nil
  | e :: _, h =>
    .leaf rfl (h e List.mem_cons_self) (leaves_of_flat fun e he => h e (List.mem_cons_of_mem _ he))

/-- A flat mapping is its own flat form. -/
theorem flatten_flat {m : Ordered Value} (h : ∀ key v, m.get? key = some v → v.isLeaf = true) :
    flatten tolerance (m.entries.map fun e => (.str e.1, e.2)) = .ok m := by
  have hleaves : Leaves tolerance (m.entries.map fun e => (.str e.1, e.2)) m.entries :=
    leaves_of_flat fun e he => h e.1 e.2 (Ordered.get?_eq_some_iff.2 he)
  rw [hleaves.flatten_eq, Ordered.ofList_entries]

/-! ## The configuration of a nested mapping -/

/-- The value is the last one that some leaves have under a key. -/
def LastLeaf (ls : List (String × Value)) (key : String) (v : Value) : Prop :=
  ∃ front back, ls = front ++ (key, v) :: back ∧ key ∉ back.map Prod.fst

/-- Looking up a key from the end finds its last leaf. -/
theorem lookup_reverse_eq_some_iff {key : String} {v : Value} :
    Ordered.lookup key ls.reverse = some v ↔ LastLeaf ls key v := by
  constructor
  · intro h
    induction ls using List.reverseRecOn with
    | nil => cases h
    | append_singleton ls l ih =>
      obtain ⟨k, w⟩ := l
      rw [List.reverse_append, List.reverse_singleton, List.singleton_append, Ordered.lookup] at h
      split at h
      · next hk =>
        subst hk
        cases h
        exact ⟨ls, [], rfl, by simp⟩
      · next hk =>
        obtain ⟨front, back, rfl, hback⟩ := ih h
        refine ⟨front, back ++ [(k, w)], by simp, ?_⟩
        simp [hback, Ne.symm hk]
  · rintro ⟨front, back, rfl, hback⟩
    have hnone : Ordered.lookup key back.reverse = none := by
      rw [Ordered.lookup_eq_none_iff, List.map_reverse, List.mem_reverse]
      exact hback
    have hone : Ordered.lookup key [(key, v)] = some v := if_pos rfl
    rw [List.reverse_append, List.reverse_cons, List.append_assoc, Ordered.lookup_append,
      Ordered.lookup_append, hnone, hone, Option.none_or]
    rfl

theorem Leaves.ofTree_eq (h : Leaves tolerance tree ls) :
    ofTree tolerance tree = ofValues tolerance (.ofList ls) := by
  rw [ofTree, h.flatten_eq]
  rfl

/-- The mapping of some leaves has the last leaf of each key. -/
theorem get?_ofList_eq_some_iff {key : String} {v : Value} :
    (Ordered.ofList ls).get? key = some v ↔ LastLeaf ls key v := by
  rw [Ordered.get?_ofList]
  exact lookup_reverse_eq_some_iff

/-- The mapping of some leaves makes a configuration exactly when the last leaf of every known key can be
converted by the option. -/
theorem exists_ofValues_ofList_iff : (∃ c, ofValues tolerance (.ofList ls) = .ok c) ↔
    ∀ key o v, ConfigOption.known? key = some o → LastLeaf ls key v →
      ∃ w, o.convert tolerance v = .ok w := by
  constructor
  · rintro ⟨c, hc⟩ key o v ho hv
    obtain ⟨w, hw, -⟩ := Ordered.get?_of_traverse (ofValues_eq_ok_iff.1 hc) (get?_ofList_eq_some_iff.2 hv)
    rw [convertEntry, ho] at hw
    exact ⟨w, hw⟩
  · intro h
    have hconv (key : String) (v : Value) (hv : (Ordered.ofList ls).get? key = some v) :
        ∃ w, convertEntry tolerance key v = .ok w := by
      rw [convertEntry]
      cases ho : ConfigOption.known? key with
      | none => exact ⟨v, rfl⟩
      | some o => exact h key o v ho (get?_ofList_eq_some_iff.1 hv)
    obtain ⟨n, hn⟩ := Ordered.exists_traverse hconv
    obtain ⟨c, hc, -⟩ := exists_ofValues hn
    exact ⟨c, hc⟩

/-- **The configuration of a nested mapping is that of its leaves.** A nested mapping without leaves in the
sense of `Leaves`, because a key on the way has no text or because it contains itself, makes no
configuration. Any other one makes a configuration exactly when the last leaf of every known key can be
converted; the keys are then the paths of the leaves in the order of their first occurrence, each with its
last leaf, converted if the key is known. So missing values and empty mappings have no part in it, the same
leaves in another spelling give the same outcome, and a flat mapping is left as it is. -/
theorem ofTree_leaves (tolerance : Tolerance) (tree : List (Value × Value)) :
    (∀ c, ofTree tolerance tree = .ok c → ∃ ls, Leaves tolerance tree ls) ∧
    (∀ ls, Leaves tolerance tree ls →
      ((∃ c, ofTree tolerance tree = .ok c) ↔
        ∀ key o v, ConfigOption.known? key = some o → LastLeaf ls key v →
          ∃ w, o.convert tolerance v = .ok w) ∧
      (∀ c, ofTree tolerance tree = .ok c →
        c.keys = (ls.map Prod.fst).eraseDups ∧
        ∀ key v, LastLeaf ls key v → ∃ w, convertEntry tolerance key v = .ok w ∧ c.get? key = some w) ∧
      (∀ tree', Pruned tree tree' → ofTree tolerance tree' = ofTree tolerance tree) ∧
      ∀ tree', Leaves tolerance tree' ls → ofTree tolerance tree' = ofTree tolerance tree) ∧
    ∀ m : Ordered Value, (∀ key v, m.get? key = some v → v.isLeaf = true) →
      flatten tolerance (m.entries.map fun e => (.str e.1, e.2)) = .ok m := by
  refine ⟨?leaves, ?configuration, fun m => flatten_flat⟩
  case leaves =>
    intro c hc
    obtain ⟨m, hm, -⟩ := bind_eq_ok.1 hc
    exact exists_flatten_iff.1 ⟨m, hm⟩
  case configuration =>
    intro ls hls
    have same {tree' : List (Value × Value)} (hls' : Leaves tolerance tree' ls) :
        ofTree tolerance tree' = ofTree tolerance tree := by
      rw [hls'.ofTree_eq, hls.ofTree_eq]
    refine ⟨?_, ?_, fun tree' hpruned => same (hpruned.leaves hls), fun tree' => same⟩
    · rw [hls.ofTree_eq]
      exact exists_ofValues_ofList_iff
    · intro c hc
      rw [hls.ofTree_eq, ofValues_eq_ok_iff] at hc
      constructor
      · rw [keys, Ordered.keys_of_traverse hc, Ordered.ofList, Ordered.keys_putAll]
        rfl
      · intro key v hv
        exact Ordered.get?_of_traverse hc (get?_ofList_eq_some_iff.2 hv)

/-- A mapping in which nested and dotted spellings of the same keys meet, one key is a number, a value is
missing and an inner mapping is empty. -/
theorem ofTree_leaves_of_spellings : ∃ c,
    ofTree .standard [(.str "a", .mapping [(.str "b", .int 1), (.str "c", .null)]),
      (.str "taskmanager", .mapping [(.str "numberOfTaskSlots", .str "x")]), (.int 1, .str "n"),
      (.str "a.b", .bool true), (.str "taskmanager.numberOfTaskSlots", .str "4"), (.str "1", .str "m"),
      (.str "e", .mapping [])] = .ok c ∧
    c.keys = ["a.b", "taskmanager.numberOfTaskSlots", "1"] ∧
    c.get? "a.b" = some (.bool true) ∧
    c.get? "taskmanager.numberOfTaskSlots" = some (.int 4) ∧ c.get? "1" = some (.str "m") := by
  have hone : (Value.int 1).text .standard = .ok "1" := by
    show writeInt 1 = _
    exact writeInt_eq_ok (by decide +kernel)
  obtain ⟨ls, hls, hpaths⟩ : ∃ ls, Leaves .standard
      [(.str "a", .mapping [(.str "b", .int 1), (.str "c", .null)]),
        (.str "taskmanager", .mapping [(.str "numberOfTaskSlots", .str "x")]), (.int 1, .str "n"),
        (.str "a.b", .bool true), (.str "taskmanager.numberOfTaskSlots", .str "4"), (.str "1", .str "m"),
        (.str "e", .mapping [])] ls ∧
      ls = [("a.b", .int 1), ("taskmanager.numberOfTaskSlots", .str "x"), ("1", .str "n"),
        ("a.b", .bool true), ("taskmanager.numberOfTaskSlots", .str "4"), ("1", .str "m")] :=
    ⟨_, .mapping rfl (.leaf rfl rfl (.missing rfl .nil)) <| .mapping rfl (.leaf rfl rfl .nil) <|
      .leaf hone rfl <| .leaf rfl rfl <| .leaf rfl rfl <| .leaf rfl rfl <| .mapping rfl .nil .nil, rfl⟩
  subst hpaths
  obtain ⟨c, hc⟩ : ∃ c, ofTree .standard _ = .ok c := ⟨_, hls.ofTree_eq.trans rfl⟩
  obtain ⟨-, hcases, -⟩ := ofTree_leaves .standard _
  obtain ⟨-, hvalues, -⟩ := hcases _ hls
  obtain ⟨hkeys, hget⟩ := hvalues c hc
  obtain ⟨b, hb, hcb⟩ := hget "a.b" (.bool true) (lookup_reverse_eq_some_iff.1 rfl)
  obtain ⟨n, hn, hcn⟩ := hget "taskmanager.numberOfTaskSlots" (.str "4")
    (lookup_reverse_eq_some_iff.1 rfl)
  obtain ⟨m, hm, hcm⟩ := hget "1" (.str "m") (lookup_reverse_eq_some_iff.1 rfl)
  cases hb
  cases hn
  cases hm
  exact ⟨c, hc, hkeys, hcb, hcn, hcm⟩

end

end Configuration

end ClusterPlan
