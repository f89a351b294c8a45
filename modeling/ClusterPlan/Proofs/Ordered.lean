import ClusterPlan.Ordered
import Mathlib.Data.List.Nodup

/-!
# Ordered mappings by key

An ordered mapping is known by its keys in order and by what it has under each key (`ext_get?`), so each
operation is described by what it does to these two. A sequence of puts keeps the keys in the order of
their first occurrence and gives a key the last value that was put (`keys_putAll`, `get?_putAll`). A
traversal that succeeds keeps the keys and maps what is under each of them (`traverse_eq_ok_iff`), and it
passes through a sequence of puts onto values that it does not change (`traverse_putAll_entries`). How puts
are grouped into mappings that are put as a whole makes no difference (`putAll_entries_putAll`).
-/

namespace ClusterPlan.Ordered

section
variable {α β ε : Type}

/-! ## Lookup -/

/-- A key has no value exactly when no entry has that key. -/
theorem lookup_eq_none_iff {k : String} {es : List (String × α)} :
    lookup k es = none ↔ k ∉ es.map Prod.fst := by
  induction es with
  | nil => simp [lookup]
  | cons e es ih =>
    by_cases h : e.1 = k
    · simp [lookup, h]
    · have h' : k ≠ e.1 := fun e => h e.symm
      simp only [lookup, if_neg h, ih, List.map_cons, List.mem_cons, h', false_or]

/-- The lookup of lists of pairs is the same one. -/
theorem list_lookup_eq (k : String) (es : List (String × α)) : es.lookup k = lookup k es := by
  induction es with
  | nil => rfl
  | cons e es ih =>
    obtain ⟨k', v⟩ := e
    by_cases h : k' = k
    · simp [lookup, h]
    · have h' : (k == k') = false := beq_false_of_ne (Ne.symm h)
      rw [List.lookup_cons, h', lookup, if_neg h]
      exact ih

/-- What is looked up in two lists is what the first one has, or else what the second one has. -/
theorem lookup_append (k : String) (es fs : List (String × α)) :
    lookup k (es ++ fs) = (lookup k es).or (lookup k fs) := by
  induction es with
  | nil => rfl
  | cons e es ih =>
    by_cases h : e.1 = k
    · simp [lookup, h]
    · simpa [lookup, h] using ih

theorem lookup_singleton_of_ne {k k' : String} (v : α) (h : k' ≠ k) : lookup k [(k', v)] = none := by
  rw [lookup, if_neg h]
  rfl

/-- What is found is there. -/
theorem mem_of_lookup {k : String} {v : α} {es : List (String × α)} (h : lookup k es = some v) :
    (k, v) ∈ es := by
  induction es with
  | nil => cases h
  | cons e es ih =>
    obtain ⟨k', v'⟩ := e
    by_cases hk : k' = k
    · subst hk
      rw [lookup, if_pos rfl, Option.some.injEq] at h
      exact h ▸ List.mem_cons_self
    · rw [lookup, if_neg hk] at h
      exact List.mem_cons_of_mem _ (ih h)

/-- Among entries with distinct keys a value is found exactly when its entry is there. -/
theorem lookup_eq_some_iff {k : String} {v : α} {es : List (String × α)}
    (h : (es.map Prod.fst).Nodup) : lookup k es = some v ↔ (k, v) ∈ es := by
  induction es with
  | nil => simp [lookup]
  | cons e es ih =>
    obtain ⟨k', v'⟩ := e
    have ⟨hk', hes⟩ := List.nodup_cons.1 h
    by_cases hk : k' = k
    · subst hk
      have hv : (k', v) ∉ es := fun hm => hk' (List.mem_map.2 ⟨_, hm, rfl⟩)
      simp [lookup, hv, eq_comm]
    · have hk'' : ¬ k = k' := fun e => hk e.symm
      simp [lookup, hk, hk'', ih hes]

/-- Among entries with distinct keys the order does not matter for a lookup. -/
theorem lookup_perm (k : String) {es fs : List (String × α)} (h : (es.map Prod.fst).Nodup)
    (hp : es.Perm fs) : lookup k fs = lookup k es := by
  have hf : (fs.map Prod.fst).Nodup := (hp.map _).nodup_iff.1 h
  refine Option.ext fun v => ?_
  rw [lookup_eq_some_iff hf, lookup_eq_some_iff h, hp.mem_iff]

theorem lookup_reverse (k : String) {es : List (String × α)} (h : (es.map Prod.fst).Nodup) :
    lookup k es.reverse = lookup k es :=
  lookup_perm k h es.reverse_perm.symm

theorem get?_eq_none_iff {m : Ordered α} {k : String} : m.get? k = none ↔ k ∉ m.keys :=
  lookup_eq_none_iff

theorem get?_eq_some_iff {m : Ordered α} {k : String} {v : α} :
    m.get? k = some v ↔ (k, v) ∈ m.entries :=
  lookup_eq_some_iff m.distinct

theorem isSome_get?_iff {m : Ordered α} {k : String} : (m.get? k).isSome ↔ k ∈ m.keys := by
  rw [Option.isSome_iff_ne_none, ne_eq, get?_eq_none_iff, not_not]

/-- Lists of entries with the same distinct keys that give the same values are the same. -/
theorem entries_ext : ∀ {es fs : List (String × α)}, (es.map Prod.fst).Nodup →
    es.map Prod.fst = fs.map Prod.fst → (∀ k, lookup k es = lookup k fs) → es = fs
  | [], [], _, _, _ => rfl
  | (k, v) :: es, [], _, hk, _ => by simp at hk
  | [], (k, v) :: fs, _, hk, _ => by simp at hk
  | (k, v) :: es, (k', v') :: fs, hd, hk, hl => by
    have ⟨hnot, hd⟩ := List.nodup_cons.1 hd
    obtain ⟨rfl, hks⟩ : k = k' ∧ es.map Prod.fst = fs.map Prod.fst := List.cons.inj hk
    obtain rfl : v = v' := by simpa [lookup] using hl k
    refine congrArg _ (entries_ext hd hks fun k' => ?_)
    by_cases h : k = k'
    · subst h
      rw [lookup_eq_none_iff.2 hnot, lookup_eq_none_iff.2 (hks ▸ hnot)]
    · simpa [lookup, h] using hl k'

/-- A mapping is known by its keys in order and by its values. -/
theorem ext_get? {m n : Ordered α} (hk : m.keys = n.keys) (hg : ∀ k, m.get? k = n.get? k) : m = n :=
  ext (entries_ext m.distinct hk hg)

/-! ## Puts -/

theorem lookup_putEntry (k k' : String) (v : α) (es : List (String × α)) :
    lookup k' (putEntry k v es) = if k = k' then some v else lookup k' es := by
  induction es with
  | nil => rfl
  | cons e es ih =>
    obtain ⟨k₁, v₁⟩ := e
    by_cases h : k₁ = k
    · subst h
      simp only [putEntry, lookup, ↓reduceIte]
      split <;> rfl
    · rw [putEntry, if_neg h, lookup, lookup, ih]
      by_cases h₁ : k₁ = k'
      · subst h₁
        simp [Ne.symm h]
      · simp [h₁]

/-- A put gives its key the new value and leaves the other keys alone. -/
theorem get?_put (m : Ordered α) (k k' : String) (v : α) :
    (m.put k v).get? k' = if k = k' then some v else m.get? k' :=
  lookup_putEntry k k' v m.entries

theorem keys_put (m : Ordered α) (k : String) (v : α) :
    (m.put k v).keys = if k ∈ m.keys then m.keys else m.keys ++ [k] :=
  keys_putEntry k v m.entries

theorem putEntry_of_not_mem {k : String} (v : α) {es : List (String × α)} (h : k ∉ es.map Prod.fst) :
    putEntry k v es = es ++ [(k, v)] := by
  induction es with
  | nil => rfl
  | cons e es ih =>
    rw [List.map_cons, List.mem_cons, not_or] at h
    rw [putEntry, if_neg (Ne.symm h.1), ih h.2, List.cons_append]

/-- A put of a new key adds its entry at the end and leaves the others as they are. -/
theorem entries_put_of_not_mem {m : Ordered α} {k : String} (h : k ∉ m.keys) (v : α) :
    (m.put k v).entries = m.entries ++ [(k, v)] :=
  putEntry_of_not_mem v h

theorem eraseDups_eq_self : ∀ {ks : List String}, ks.Nodup → ks.eraseDups = ks
  | [], _ => rfl
  | k :: ks, h => by
    have ⟨hk, hks⟩ := List.nodup_cons.1 h
    have hf : ks.filter (fun l => !l == k) = ks :=
      List.filter_eq_self.2 fun l hl => by simpa using fun e : l = k => hk (e ▸ hl)
    rw [List.eraseDups_cons, hf, eraseDups_eq_self hks]

/-- A key that occurred before does not count again. -/
theorem eraseDups_append_cons_of_mem {ks ls : List String} {k : String} (h : k ∈ ks) :
    (ks ++ k :: ls).eraseDups = (ks ++ ls).eraseDups := by
  have : ks.contains k = true := List.contains_iff_mem.2 h
  simp [List.eraseDups_append, List.removeAll, h]

theorem putAll_putAll (m : Ordered α) (es fs : List (String × α)) :
    (m.putAll es).putAll fs = m.putAll (es ++ fs) :=
  List.foldl_append.symm

/-- After a sequence of puts the keys stand in the order of their first occurrence. -/
theorem keys_putAll (m : Ordered α) (es : List (String × α)) :
    (m.putAll es).keys = (m.keys ++ es.map Prod.fst).eraseDups := by
  induction es generalizing m with
  | nil =>
    have : m.keys.eraseDups = m.keys := eraseDups_eq_self m.distinct
    rw [List.map_nil, List.append_nil, this]; rfl
  | cons e es ih =>
    rw [putAll, List.foldl_cons, ← putAll, ih, keys_put, List.map_cons]
    split
    · next h => rw [eraseDups_append_cons_of_mem h]
    · rw [List.append_assoc, List.singleton_append]

/-- After a sequence of puts a key has the last value that was put, or else the one it had. -/
theorem get?_putAll (m : Ordered α) (es : List (String × α)) (k : String) :
    (m.putAll es).get? k = (lookup k es.reverse).or (m.get? k) := by
  induction es generalizing m with
  | nil => rfl
  | cons e es ih =>
    rw [putAll, List.foldl_cons, ← putAll, ih, get?_put, List.reverse_cons, lookup_append,
      Option.or_assoc]
    congr 1
    by_cases h : e.1 = k <;> simp [lookup, h]

/-- A put among others that is the last one of its key changes what is under that key only. -/
theorem get?_putAll_insert (m : Ordered α) {es fs : List (String × α)} {k : String} (v : α)
    (h : k ∉ fs.map Prod.fst) (k' : String) :
    (m.putAll (es ++ (k, v) :: fs)).get? k' = if k = k' then some v else (m.putAll (es ++ fs)).get? k' := by
  have hsplit : (es ++ (k, v) :: fs).reverse = fs.reverse ++ ([(k, v)] ++ es.reverse) := by simp
  rw [get?_putAll, get?_putAll, hsplit, List.reverse_append, lookup_append, lookup_append, lookup_append]
  split
  · next hk =>
    subst hk
    have hnone : lookup k fs.reverse = none := by
      rw [lookup_eq_none_iff, List.map_reverse, List.mem_reverse]
      exact h
    have hone : lookup k [(k, v)] = some v := if_pos rfl
    rw [hnone, hone, Option.none_or, Option.some_or, Option.some_or]
  · next hk => rw [lookup_singleton_of_ne v hk, Option.none_or]

/-- The mapping of some entries has the last value of each key. -/
theorem get?_ofList (es : List (String × α)) (k : String) : (ofList es).get? k = lookup k es.reverse := by
  rw [ofList, get?_putAll]
  exact Option.or_none

/-- The entries of a mapping make the mapping. -/
theorem ofList_entries (m : Ordered α) : ofList m.entries = m := by
  refine ext_get? ?_ fun k => ?_
  · rw [ofList, keys_putAll]
    exact eraseDups_eq_self m.distinct
  · rw [get?_ofList, lookup_reverse k m.distinct]
    rfl

/-- Of two mappings put together the second one prevails. -/
theorem get?_putAll_entries (m n : Ordered α) (k : String) :
    (m.putAll n.entries).get? k = (n.get? k).or (m.get? k) := by
  rw [get?_putAll, lookup_reverse k n.distinct]; rfl

/-! ## Puts of whole mappings -/

/-- A key at the end that is new stays there. -/
theorem eraseDups_concat_of_not_mem {ks : List String} {k : String} (h : k ∉ ks) :
    (ks ++ [k]).eraseDups = ks.eraseDups ++ [k] := by
  have hk : [k].removeAll ks = [k] := by simp [List.removeAll, h]
  rw [List.eraseDups_append, hk]
  rfl

/-- A key that is put twice has the second value, at the place of the first. -/
theorem put_put (m : Ordered α) (k : String) (v w : α) : (m.put k v).put k w = m.put k w := by
  apply ext_get?
  · rw [keys_put, keys_put, keys_put]
    by_cases h : k ∈ m.keys
    · simp [h]
    · simp [h]
  · intro k'
    rw [get?_put, get?_put, get?_put]
    split <;> rfl

/-- Mappings that have the same under each key have the same keys, if in another order. -/
theorem keys_perm_of_get? {m n : Ordered α} (h : ∀ k, m.get? k = n.get? k) : m.keys.Perm n.keys := by
  refine (List.perm_ext_iff_of_nodup m.distinct n.distinct).2 fun k => ?_
  show k ∈ m.keys ↔ k ∈ n.keys
  rw [← isSome_get?_iff, ← isSome_get?_iff, h]

/-- Putting a mapping with one more key comes to putting the mapping and then the key. -/
theorem putAll_put (m n : Ordered α) (k : String) (v : α) :
    m.putAll (n.put k v).entries = (m.putAll n.entries).put k v := by
  apply ext_get?
  · have hn : (n.put k v).entries.map Prod.fst = if k ∈ n.keys then n.keys else n.keys ++ [k] :=
      keys_put n k v
    rw [keys_put, keys_putAll, keys_putAll, hn]
    show _ = if k ∈ (m.keys ++ n.keys).eraseDups then (m.keys ++ n.keys).eraseDups
      else (m.keys ++ n.keys).eraseDups ++ [k]
    simp only [List.mem_eraseDups]
    by_cases hk : k ∈ n.keys
    · rw [if_pos hk, if_pos (List.mem_append_right _ hk)]
    · rw [if_neg hk, ← List.append_assoc]
      split
      · next hmem => rw [eraseDups_append_cons_of_mem hmem, List.append_nil]
      · next hmem => exact eraseDups_concat_of_not_mem hmem
  · intro k'
    rw [get?_putAll_entries, get?_put, get?_put, get?_putAll_entries]
    split
    · rw [Option.some_or]
    · rfl

/-- Putting a mapping that a sequence of puts has made comes to putting what was there before and then the
sequence: neither the place nor the value of a key depends on how the puts are grouped. -/
theorem putAll_entries_putAll (m n : Ordered α) (es : List (String × α)) :
    m.putAll (n.putAll es).entries = (m.putAll n.entries).putAll es := by
  induction es generalizing n with
  | nil => rfl
  | cons e es ih =>
    show m.putAll ((n.put e.1 e.2).putAll es).entries = ((m.putAll n.entries).put e.1 e.2).putAll es
    rw [ih, putAll_put]

/-- Putting the mapping of some entries comes to putting the entries. -/
theorem putAll_ofList (m : Ordered α) (es : List (String × α)) :
    m.putAll (ofList es).entries = m.putAll es :=
  putAll_entries_putAll m empty es

/-! ## Images -/

theorem lookup_map (f : String → α → β) (k : String) (es : List (String × α)) :
    lookup k (es.map fun e => (e.1, f e.1 e.2)) = (lookup k es).map (f k) := by
  induction es with
  | nil => rfl
  | cons e es ih =>
    rw [List.map_cons, lookup, lookup]
    split
    · next h => subst h; rfl
    · exact ih

theorem keys_of_map (f : String → α → β) (m : Ordered α) : (m.map f).keys = m.keys :=
  keys_map f m.entries

theorem get?_map (f : String → α → β) (m : Ordered α) (k : String) :
    (m.map f).get? k = (m.get? k).map (f k) :=
  lookup_map f k m.entries

/-! ## Traversals -/

variable {f : String → α → Except ε β} {m : Ordered α} {n : Ordered β}

theorem keys_of_traverse (h : traverse f m = .ok n) : n.keys = m.keys :=
  keys_traverseEntries (traverse_eq_ok.1 h)

/-- What a traversal gives under a key is the image of what was there. -/
theorem get?_of_traverse (h : traverse f m = .ok n) {k : String} {v : α} (hv : m.get? k = some v) :
    ∃ w, f k v = .ok w ∧ n.get? k = some w := by
  have hk : (n.get? k).isSome := by
    rw [isSome_get?_iff, keys_of_traverse h, ← isSome_get?_iff, hv]; rfl
  obtain ⟨w, hw⟩ := Option.isSome_iff_exists.1 hk
  obtain ⟨v', hv', hf⟩ := mem_traverseEntries (traverse_eq_ok.1 h) (get?_eq_some_iff.1 hw)
  obtain rfl : v' = v := Option.some.inj ((get?_eq_some_iff.2 hv').symm.trans hv)
  exact ⟨w, hf, hw⟩

theorem exists_traverseEntries : ∀ {es : List (String × α)},
    (∀ k v, (k, v) ∈ es → ∃ w, f k v = .ok w) → ∃ r, traverseEntries f es = .ok r
  | [], _ => ⟨[], rfl⟩
  | (k, v) :: es, h => by
    obtain ⟨w, hw⟩ := h k v List.mem_cons_self
    have ⟨r, hr⟩ : ∃ r, traverseEntries f es = .ok r :=
      exists_traverseEntries fun k v hm => h k v (List.mem_cons_of_mem _ hm)
    exact ⟨_, traverseEntries_cons_eq_ok.2 ⟨w, r, hw, hr, rfl⟩⟩

/-- A traversal succeeds when it does on every entry. -/
theorem exists_traverse (h : ∀ k v, m.get? k = some v → ∃ w, f k v = .ok w) :
    ∃ n, traverse f m = .ok n := by
  have ⟨r, hr⟩ : ∃ r, traverseEntries f m.entries = .ok r :=
    exists_traverseEntries fun k v hm => h k v (get?_eq_some_iff.2 hm)
  exact ⟨⟨r, by rw [keys_traverseEntries hr]; exact m.distinct⟩, traverse_eq_ok.2 hr⟩

/-- A traversal that fails does so on one of the entries. -/
theorem exists_of_traverseEntries_eq_error {e : ε} : ∀ {es : List (String × α)},
    traverseEntries f es = .error e → ∃ k v, (k, v) ∈ es ∧ f k v = .error e
  | [], h => nomatch h
  | (k, v) :: es, h => by
    cases hv : f k v with
    | error e' =>
      rw [traverseEntries, hv] at h
      cases h
      exact ⟨k, v, List.mem_cons_self, hv⟩
    | ok w =>
      cases hes : traverseEntries f es with
      | error e' =>
        rw [traverseEntries, hv, hes] at h
        cases h
        obtain ⟨k', v', hm, hf⟩ := exists_of_traverseEntries_eq_error hes
        exact ⟨k', v', List.mem_cons_of_mem _ hm, hf⟩
      | ok rest => rw [traverseEntries, hv, hes] at h; cases h

theorem exists_of_traverse_eq_error {e : ε} (h : traverse f m = .error e) :
    ∃ k v, m.get? k = some v ∧ f k v = .error e := by
  unfold traverse at h
  split at h
  · next e' he =>
    cases h
    obtain ⟨k, v, hm, hf⟩ := exists_of_traverseEntries_eq_error he
    exact ⟨k, v, get?_eq_some_iff.2 hm, hf⟩
  · cases h

/-- A traversal is known by the keys, which stay, and by the images of the values. -/
theorem traverse_eq_ok_iff : traverse f m = .ok n ↔
    n.keys = m.keys ∧ ∀ k v, m.get? k = some v → ∃ w, f k v = .ok w ∧ n.get? k = some w := by
  refine ⟨fun h => ⟨keys_of_traverse h, fun k v => get?_of_traverse h⟩, fun ⟨hk, hg⟩ => ?_⟩
  obtain ⟨n', hn'⟩ := exists_traverse (f := f) (m := m) fun k v hv =>
    (hg k v hv).imp fun _ => And.left
  suffices n' = n from this ▸ hn'
  refine ext_get? ((keys_of_traverse hn').trans hk.symm) fun k => ?_
  cases hv : m.get? k with
  | none =>
    have hm := get?_eq_none_iff.1 hv
    rw [get?_eq_none_iff.2 (keys_of_traverse hn' ▸ hm), get?_eq_none_iff.2 (hk ▸ hm)]
  | some v =>
    obtain ⟨w, hw, hn⟩ := hg k v hv
    obtain ⟨w', hw', hn''⟩ := get?_of_traverse hn' hv
    rw [hn, hn'', Except.ok.inj (hw.symm.trans hw')]

/-- A traversal of values that are their own images changes nothing. -/
theorem traverse_eq_self {f : String → α → Except ε α} {m : Ordered α}
    (h : ∀ k v, m.get? k = some v → f k v = .ok v) : traverse f m = .ok m :=
  traverse_eq_ok_iff.2 ⟨rfl, fun k v hv => ⟨v, h k v hv, hv⟩⟩

/-- When the values of a mapping are their own images, a traversal after a sequence of puts is the puts of
the images. -/
theorem traverse_putAll_entries {f : String → α → Except ε α} {m n r : Ordered α}
    (h : ∀ k v, m.get? k = some v → f k v = .ok v) :
    traverse f (m.putAll n.entries) = .ok r ↔
      ∃ n', traverse f n = .ok n' ∧ r = m.putAll n'.entries := by
  -- the keys are the same on both sides, so only the image of each value is to be looked at
  have put_iff (n' : Ordered α) (hn : traverse f n = .ok n') :
      traverse f (m.putAll n.entries) = .ok (m.putAll n'.entries) := by
    have hk : n'.entries.map Prod.fst = n.entries.map Prod.fst := keys_of_traverse hn
    refine traverse_eq_ok_iff.2 ⟨by rw [keys_putAll, keys_putAll, hk], fun k v hv => ?_⟩
    rw [get?_putAll_entries] at hv ⊢
    cases hnk : n.get? k with
    | none =>
      rw [hnk, Option.none_or] at hv
      have hn' : n'.get? k = none := by
        rw [get?_eq_none_iff, keys_of_traverse hn, ← get?_eq_none_iff, hnk]
      exact ⟨v, h k v hv, by rw [hn', Option.none_or, hv]⟩
    | some u =>
      rw [hnk, Option.some_or] at hv
      obtain ⟨w, hw, hn'⟩ := get?_of_traverse hn hnk
      exact ⟨w, Option.some.inj hv ▸ hw, by rw [hn', Option.some_or]⟩
  refine ⟨fun hr => ?_, fun ⟨n', hn, hr⟩ => hr ▸ put_iff n' hn⟩
  obtain ⟨n', hn⟩ := exists_traverse (f := f) (m := n) fun k v hv => by
    have : (m.putAll n.entries).get? k = some v := by
      rw [get?_putAll_entries, hv, Option.some_or]
    exact (get?_of_traverse hr this).imp fun _ => And.left
  exact ⟨n', hn, Except.ok.inj (hr.symm.trans (put_iff n' hn))⟩

/-- The mapping of a single key. -/
def single (k : String) (v : α) : Ordered α := ⟨[(k, v)], List.nodup_singleton k⟩

theorem traverse_single {k : String} {v : α} {n : Ordered β} :
    traverse f (single k v) = .ok n ↔ ∃ w, f k v = .ok w ∧ n = single k w := by
  rw [traverse_eq_ok, single, traverseEntries_cons_eq_ok]
  constructor
  · rintro ⟨w, rest, hw, hrest, hn⟩
    cases hrest
    exact ⟨w, hw, ext hn⟩
  · rintro ⟨w, hw, rfl⟩
    exact ⟨w, [], hw, rfl, rfl⟩

/-- When the values of a mapping are their own images, a traversal after a put is the put of the image. -/
theorem traverse_put {f : String → α → Except ε α} {m r : Ordered α} {k : String} {v : α}
    (h : ∀ k v, m.get? k = some v → f k v = .ok v) :
    traverse f (m.put k v) = .ok r ↔ ∃ w, f k v = .ok w ∧ r = m.put k w := by
  rw [show m.put k v = m.putAll (single k v).entries from rfl, traverse_putAll_entries h]
  constructor
  · rintro ⟨n', hn, rfl⟩
    obtain ⟨w, hw, rfl⟩ := traverse_single.1 hn
    exact ⟨w, hw, rfl⟩
  · rintro ⟨w, hw, rfl⟩
    exact ⟨_, traverse_single.2 ⟨w, hw, rfl⟩, rfl⟩

end

end ClusterPlan.Ordered
