import ClusterPlan.Proofs.Writable

/-!
# Conversion of stored values

An option converts a value of its own type into itself (`ConfigOption.convert_of_holds`), so what a
configuration stores is converted into itself whenever the configuration is built anew
(`Configuration.ofValues_values`). From this each operation has one description by keys and values: a
`set` puts one converted value (`Configuration.set_eq_ok_iff`), a `merge` the conversions of some values
(`Configuration.merge_eq_ok_iff`), and a `merge` with another configuration the values of that one
(`Configuration.merge_values_eq_ok_iff`).
-/

namespace ClusterPlan

section
variable {tolerance : Tolerance}

namespace ConfigOption

/-- A list of texts only. -/
theorem exists_map_str : ∀ {items : List Value}, items.all OptionType.isText = true →
    ∃ ss : List String, items = ss.map .str
  | [], _ => ⟨[], rfl⟩
  | v :: items, h => by
    rw [List.all_cons, Bool.and_eq_true] at h
    obtain ⟨ss, rfl⟩ := exists_map_str h.2
    cases v with
    | str s => exact ⟨s :: ss, rfl⟩
    | _ => cases h.1

/-- A value of the type of an option does not contain itself. -/
theorem isFinite_of_holds {t : OptionType} {v : Value} (h : t.holds v = true) : v.isFinite = true := by
  cases v with
  | list items =>
    cases t with
    | list =>
      obtain ⟨ss, rfl⟩ := exists_map_str h
      rw [Value.isFinite, Value.itemsFinite_eq_true_iff, List.forall_mem_map]
      exact fun _ _ => rfl
    | _ => cases h
  | tuple | mapping | knot => cases t <;> cases h
  | _ => rfl

/-- A list of texts has these texts for any reader that leaves a text as it is. -/
theorem mapM_map_str {read : Value → Except Failure String} (h : ∀ s, read (.str s) = .ok s) :
    ∀ ss : List String, (ss.map .str).mapM read = .ok ss
  | [] => rfl
  | s :: ss => by rw [List.map_cons, List.mapM_cons, h, mapM_map_str h ss]; rfl

/-- An option converts a value of its own type into itself. -/
theorem convert_of_holds {o : ConfigOption} {v : Value} (h : o.type.holds v = true) :
    o.convert tolerance v = .ok v := by
  obtain ⟨key, type, default, description⟩ := o
  cases type with
  | string => cases v with
    | str s => rfl
    | _ => cases h
  | integer => cases v with
    | int i => rfl
    | _ => cases h
  | boolean => cases v with
    | bool b => rfl
    | _ => cases h
  | memory => cases v with
    | memory m => rfl
    | _ => cases h
  | duration => cases v with
    | duration d => rfl
    | _ => cases h
  | list => cases v with
    | list items =>
      obtain ⟨ss, rfl⟩ := exists_map_str h
      show (do return Value.list ((← texts tolerance _).map .str)) = _
      rw [texts, mapM_map_str fun _ => rfl]; rfl
    | _ => cases h

/-- In a list of options with distinct keys each one is found by its key. -/
theorem find?_key : ∀ {os : List ConfigOption}, (os.map key).Nodup → ∀ {o : ConfigOption}, o ∈ os →
    os.find? (fun p => p.key = o.key) = some o
  | [], _, _, ho => nomatch ho
  | p :: os, hd, o, ho => by
    have ⟨hp, hd⟩ := List.nodup_cons.1 hd
    rcases List.mem_cons.1 ho with rfl | ho
    · simp
    · have hne : p.key ≠ o.key := fun e => hp (e ▸ List.mem_map_of_mem ho)
      rw [List.find?_cons_of_neg (by simpa using hne)]
      exact find?_key hd ho

/-- The options of the registry are found by their keys. -/
theorem known?_key {o : ConfigOption} (h : o ∈ registry) : known? o.key = some o :=
  find?_key (by decide) h

end ConfigOption

namespace Configuration

theorem ext {c d : Configuration} (h : c.values = d.values) : c = d := by
  cases c; cases d; cases h; rfl

/-- A configuration is known by its keys in order and by its values. -/
theorem ext_get? {c d : Configuration} (hk : c.keys = d.keys) (hg : ∀ k, c.get? k = d.get? k) :
    c = d :=
  ext (Ordered.ext_get? hk hg)

theorem isSome_get?_iff {c : Configuration} {key : String} : (c.get? key).isSome ↔ key ∈ c.keys :=
  Ordered.isSome_get?_iff

/-- A stored value fits its key. -/
theorem fits_of_get? {c : Configuration} {key : String} {v : Value} (h : c.get? key = some v) :
    fits key v = true :=
  c.typed (key, v) (Ordered.get?_eq_some_iff.1 h)

/-- A value that is stored under the key of a known option is of its type. -/
theorem holds_of_get? {c : Configuration} {o : ConfigOption} (ho : o ∈ ConfigOption.registry) {v : Value}
    (h : c.get? o.key = some v) : o.type.holds v = true := by
  have hfits := fits_of_get? h
  rwa [fits, ConfigOption.known?_key ho] at hfits

/-- A value that fits its key is converted into itself. -/
theorem convertEntry_of_fits {key : String} {v : Value} (h : fits key v = true) :
    convertEntry tolerance key v = .ok v := by
  unfold convertEntry
  unfold fits at h
  split
  · next o ho => rw [ho] at h; exact ConfigOption.convert_of_holds h
  · rfl

/-- A value of the type of a known option is converted into itself under its key. -/
theorem convertEntry_of_holds {o : ConfigOption} (ho : o ∈ ConfigOption.registry) {v : Value}
    (h : o.type.holds v = true) : convertEntry tolerance o.key v = .ok v := by
  rw [convertEntry, ConfigOption.known?_key ho]
  exact ConfigOption.convert_of_holds h

theorem convertEntry_of_get? {c : Configuration} {key : String} {v : Value}
    (h : c.get? key = some v) : convertEntry tolerance key v = .ok v :=
  convertEntry_of_fits (fits_of_get? h)

/-- A conversion does not make a value contain itself. -/
theorem isFinite_of_convertEntry {key : String} {v w : Value} (hv : v.isFinite = true)
    (h : convertEntry tolerance key v = .ok w) : w.isFinite = true := by
  unfold convertEntry at h
  split at h
  · exact ConfigOption.isFinite_of_holds (ConfigOption.holds_of_convert h)
  · cases h
    exact hv

/-- A configuration of some values has their conversions. -/
theorem ofValues_eq_ok_iff {m : Ordered Value} {c : Configuration} :
    ofValues tolerance m = .ok c ↔ m.traverse (convertEntry tolerance) = .ok c.values := by
  unfold ofValues
  split
  · next f h => simp [h]
  · next n h =>
    constructor
    · intro e
      cases e
      exact h
    · intro e
      obtain ⟨values, typed⟩ := c
      cases h.symm.trans e
      rfl

/-- Values that can all be converted make a configuration. -/
theorem exists_ofValues {m n : Ordered Value} (h : m.traverse (convertEntry tolerance) = .ok n) :
    ∃ c, ofValues tolerance m = .ok c ∧ c.values = n := by
  unfold ofValues
  split
  · next f hf => cases hf.symm.trans h
  · next n' hn => exact ⟨_, rfl, Except.ok.inj (hn.symm.trans h)⟩

/-- A configuration that is built anew of its own values is the same. -/
theorem ofValues_values (c : Configuration) : ofValues tolerance c.values = .ok c :=
  ofValues_eq_ok_iff.2 (Ordered.traverse_eq_self fun _ _ => convertEntry_of_get?)

/-- A set puts the converted value; the values that are stored stay as they are. -/
theorem set_eq_ok_iff {c d : Configuration} {key : String} {v : Value} :
    c.set tolerance key v = .ok d ↔
      ∃ w, convertEntry tolerance key v = .ok w ∧ d.values = c.values.put key w := by
  rw [set, ofValues_eq_ok_iff, Ordered.traverse_put fun _ _ => convertEntry_of_get?]

/-- A set succeeds when the new value can be converted. -/
theorem exists_set (c : Configuration) {key : String} {v w : Value}
    (h : convertEntry tolerance key v = .ok w) :
    ∃ d, c.set tolerance key v = .ok d ∧ d.values = c.values.put key w :=
  exists_ofValues <| (Ordered.traverse_put fun _ _ => convertEntry_of_get?).2 ⟨w, h, rfl⟩

/-- Values that do not make a configuration have one among them that cannot be converted. -/
theorem exists_of_ofValues_eq_error {m : Ordered Value} {f : Failure}
    (h : ofValues tolerance m = .error f) :
    ∃ key v, m.get? key = some v ∧ convertEntry tolerance key v = .error f := by
  unfold ofValues at h
  split at h
  · next f' hf => cases h; exact Ordered.exists_of_traverse_eq_error hf
  · cases h

/-- A set fails when the new value cannot be converted, and for the same reason. -/
theorem set_eq_error_iff {c : Configuration} {key : String} {v : Value} {f : Failure} :
    c.set tolerance key v = .error f ↔ convertEntry tolerance key v = .error f := by
  have hreason {g : Failure} (h : c.set tolerance key v = .error g) :
      convertEntry tolerance key v = .error g := by
    obtain ⟨k, w, hw, hg⟩ := exists_of_ofValues_eq_error h
    rw [Ordered.get?_put] at hw
    split at hw
    · next hk => cases hk; cases hw; exact hg
    · rw [convertEntry_of_get? hw] at hg
      cases hg
  refine ⟨hreason, fun h => ?_⟩
  cases hs : c.set tolerance key v with
  | error g => exact congrArg _ (Except.error.inj ((hreason hs).symm.trans h))
  | ok d =>
    obtain ⟨w, hw, -⟩ := set_eq_ok_iff.1 hs
    rw [hw] at h
    cases h

/-- A merge puts the conversions of the values, if these can be converted and the overrides traced. -/
theorem merge_eq_ok_iff {c e : Configuration} {m : Ordered Value} :
    c.merge tolerance m = .ok e ↔ c.traceOverrides m.entries = .ok () ∧
      ∃ d, ofValues tolerance m = .ok d ∧ e.values = c.values.putAll d.entries := by
  rw [merge, bind_eq_ok]
  constructor
  · rintro ⟨⟨⟩, ht, he⟩
    obtain ⟨n, hn, hv⟩ :=
      (Ordered.traverse_putAll_entries fun _ _ => convertEntry_of_get?).1 (ofValues_eq_ok_iff.1 he)
    obtain ⟨d, hd, rfl⟩ := exists_ofValues hn
    exact ⟨ht, d, hd, hv⟩
  · rintro ⟨ht, d, hd, hv⟩
    exact ⟨(), ht, ofValues_eq_ok_iff.2 <|
      (Ordered.traverse_putAll_entries fun _ _ => convertEntry_of_get?).2
        ⟨_, ofValues_eq_ok_iff.1 hd, hv⟩⟩

/-- A merge with a configuration puts the values of that one, if the overrides can be traced. -/
theorem merge_values_eq_ok_iff {c d e : Configuration} :
    c.merge tolerance d.values = .ok e ↔
      c.traceOverrides d.entries = .ok () ∧ e.values = c.values.putAll d.entries := by
  rw [merge_eq_ok_iff, ofValues_values]
  constructor
  · rintro ⟨ht, d', hd, hv⟩
    cases hd
    exact ⟨ht, hv⟩
  · rintro ⟨ht, hv⟩
    exact ⟨ht, d, rfl, hv⟩

end Configuration

end

end ClusterPlan
