import ClusterPlan.Proofs.Counterpart

/-!
# Repeated overrides

Overrides are applied one by one, and each time the configuration is built anew. All the same an item does not
depend on the others: it sets its entry or it does not (`Overlay.Sets`), and a list of items is accepted exactly
when each of them is accepted alone. What the items come to is the configuration of the mapping that has the
last value of each key at the place where the key occurred first, so any order that leaves the items of each
key in theirs gives the same values. The main statement is `Overlay.ofOptions_overrides`.
-/

namespace ClusterPlan

namespace Ordered

variable {α β : Type}

/-- What is looked up under a key depends on the entries of that key only. -/
theorem lookup_filter (k : String) (es : List (String × α)) :
    lookup k (es.filter fun e => e.1 = k) = lookup k es := by
  induction es with
  | nil => rfl
  | cons e es ih =>
    by_cases h : e.1 = k
    · rw [List.filter_cons_of_pos (by simpa using h), lookup, lookup, if_pos h, if_pos h]
    · rw [List.filter_cons_of_neg (by simpa using h), lookup, if_neg h, ih]

/-- Entries that are the same under a key, in the same order, give it the same last value. -/
theorem lookup_reverse_congr {k : String} {es fs : List (String × α)}
    (h : es.filter (fun e => e.1 = k) = fs.filter fun e => e.1 = k) :
    lookup k es.reverse = lookup k fs.reverse := by
  rw [← lookup_filter k es.reverse, ← lookup_filter k fs.reverse, List.filter_reverse, h,
    ← List.filter_reverse]

/-- In entries that correspond one by one, what is found under a key corresponds. -/
theorem exists_lookup_of_forall₂ {R : String → α → β → Prop} {es : List (String × α)}
    {fs : List (String × β)}
    (h : List.Forall₂ (fun e f => f.1 = e.1 ∧ R e.1 e.2 f.2) es fs) {k : String} {v : α}
    (hv : lookup k es = some v) : ∃ w, R k v w ∧ lookup k fs = some w := by
  induction h with
  | nil => cases hv
  | @cons e f es fs hef _ ih =>
    obtain ⟨hkey, hr⟩ := hef
    by_cases hk : e.1 = k
    · subst hk
      rw [lookup, if_pos rfl] at hv
      cases hv
      exact ⟨f.2, hr, by rw [lookup, if_pos hkey]⟩
    · rw [lookup, if_neg hk] at hv
      obtain ⟨w, hw, hf⟩ := ih hv
      exact ⟨w, hw, by rw [lookup, if_neg (hkey ▸ hk), hf]⟩

end Ordered

namespace Overlay

variable {tolerance : Tolerance} {item : String} {items : List String} {es : List (String × Value)}

/-! ## Single items -/

/-- An item is a key and a value on the two sides of its first equals sign, both without the blanks around them.
The key is not empty. -/
structure Assigns (item : String) (entry : String × String) : Prop where
  cut : ∃ key value, '=' ∉ key ∧ item.toList = key ++ '=' :: value ∧
    entry = (.ofList (Text.trim key), .ofList (Text.trim value))
  named : entry.1 ≠ ""

/-- What is read as an assignment is one. -/
theorem assigns_of_assignment? {entry : String × String} (h : Text.assignment? item = some entry) :
    Assigns item entry := by
  by_cases hitem : Text.IsAssignment item.toList
  · obtain ⟨key, value, hequals, hblank, hcut⟩ := hitem
    rw [Text.assignment?_of_isAssignment ⟨key, value, hequals, hblank, hcut⟩, hcut,
      Text.splitAtEquals_append hequals] at h
    obtain rfl := Option.some.inj h
    refine ⟨⟨key, value, hequals, hcut, rfl⟩, fun hempty => hblank (Text.trim_eq_nil_iff.1 ?_)⟩
    exact String.ofList_injective hempty
  · rw [Text.assignment?_of_not_isAssignment hitem] at h
    cases h

/-- An item sets one entry at most. -/
theorem Sets.unique {entry entry' : String × Value} (h : Sets tolerance item entry)
    (h' : Sets tolerance item entry') : entry = entry' := by
  obtain ⟨value, hassign, hconv, -⟩ := h
  obtain ⟨value', hassign', hconv', -⟩ := h'
  obtain ⟨key, v⟩ := entry
  obtain ⟨key', v'⟩ := entry'
  cases hassign.symm.trans hassign'
  cases hconv.symm.trans hconv'
  rfl

/-- Whether an item is an override of a key. -/
def names (key item : String) : Bool :=
  (Text.assignment? item).any fun entry => entry.1 = key

theorem Sets.names_iff {entry : String × Value} (h : Sets tolerance item entry) (key : String) :
    names key item = true ↔ entry.1 = key := by
  obtain ⟨value, hassign, -⟩ := h
  simp [names, hassign]

/-- No whole number that an item sets is too long to be written. -/
def WritableItem (tolerance : Tolerance) (item : String) : Prop :=
  ∀ entry, Sets tolerance item entry → entry.2.isWritable = true

/-! ## Lists of items -/

/-- The items of a list set entries exactly if each of them does. -/
theorem exists_forall₂_sets_iff :
    (∃ es, List.Forall₂ (Sets tolerance) items es) ↔ ∀ item ∈ items, ∃ entry, Sets tolerance item entry := by
  induction items with
  | nil => exact ⟨fun _ _ => nofun, fun _ => ⟨[], .nil⟩⟩
  | cons item items ih =>
    rw [List.forall_mem_cons, ← ih]
    constructor
    · rintro ⟨es, hes⟩
      cases hes with
      | cons hentry hes => exact ⟨⟨_, hentry⟩, ⟨_, hes⟩⟩
    · rintro ⟨⟨entry, hentry⟩, es, hes⟩
      exact ⟨entry :: es, .cons hentry hes⟩

/-- The entries that items set have the last value of each key at the place where the key occurred first. -/
theorem values_of_applyOverrides (hes : List.Forall₂ (Sets tolerance) items es) {c : Configuration}
    (h : applyOverrides tolerance items = .ok c) :
    c.keys = (es.map Prod.fst).eraseDups ∧ ∀ key, c.get? key = Ordered.lookup key es.reverse := by
  obtain ⟨c', hc', hval⟩ := exists_foldlM_applyOverride hes .empty
  obtain rfl := Except.ok.inj (h.symm.trans hc')
  constructor
  · rw [Configuration.keys, hval, Ordered.keys_putAll]
    rfl
  · intro key
    rw [Configuration.get?, hval, Ordered.get?_putAll]
    exact Option.or_none

/-- Items whose numbers can be written set a configuration that can be. -/
theorem writable_of_applyOverrides (hitems : ∀ item ∈ items, WritableItem tolerance item)
    {c : Configuration} (h : applyOverrides tolerance items = .ok c) : c.Writable := by
  intro key v hv
  obtain ⟨item, hitem, hsets⟩ := exists_sets_of_applyOverrides h hv
  exact hitems item hitem (key, v) hsets

/-- Items that set entries are texts of assignments, of the key of the entry and a text of which the option of
that key makes the value. -/
theorem exists_pairs_of_sets (hes : List.Forall₂ (Sets tolerance) items es) :
    ∃ pairs : List (String × String), List.Forall₂ Assigns items pairs ∧
      pairs.map Prod.fst = es.map Prod.fst ∧
      List.Forall₂ (fun e f => f.1 = e.1 ∧
        Configuration.convertEntry tolerance e.1 (.str e.2) = .ok f.2) pairs es := by
  induction hes with
  | nil => exact ⟨[], .nil, rfl, .nil⟩
  | @cons item entry items es hsets _ ih =>
    obtain ⟨pairs, hpairs, hkeys, hconv⟩ := ih
    obtain ⟨value, hassign, hvalue, -⟩ := hsets
    refine ⟨(entry.1, value) :: pairs, .cons (assigns_of_assignment? hassign) hpairs, ?_,
      .cons ⟨rfl, hvalue⟩ hconv⟩
    rw [List.map_cons, List.map_cons, hkeys]

/-- The items are texts of assignments, and what they come to is the configuration of the mapping that these
make: the last value of each key, at the place where the key occurred first. -/
theorem exists_batch_of_applyOverrides {c : Configuration} (h : applyOverrides tolerance items = .ok c) :
    ∃ (pairs : List (String × String)) (m : Ordered String), List.Forall₂ Assigns items pairs ∧
      m.keys = (pairs.map Prod.fst).eraseDups ∧
      (∀ key, m.get? key = Ordered.lookup key pairs.reverse) ∧
      Configuration.ofValues tolerance (SessionRecord.asValues m) = .ok c := by
  obtain ⟨es, hes, -⟩ := foldlM_applyOverride_eq_ok_iff.1 h
  obtain ⟨hkeys, hget⟩ := values_of_applyOverrides hes h
  obtain ⟨pairs, hpairs, hsame, hconv⟩ := exists_pairs_of_sets hes
  have hm : (Ordered.ofList pairs).keys = (pairs.map Prod.fst).eraseDups := Ordered.keys_putAll .empty pairs
  have hvalues (key : String) := Ordered.get?_ofList pairs key
  refine ⟨pairs, .ofList pairs, hpairs, hm, hvalues, ?_⟩
  refine Configuration.ofValues_eq_ok_iff.2 (Ordered.traverse_eq_ok_iff.2 ⟨?_, fun key v hv => ?_⟩)
  · show c.keys = (SessionRecord.asValues (.ofList pairs)).keys
    rw [hkeys, SessionRecord.asValues, Ordered.keys_of_map, hm, hsame]
  · rw [SessionRecord.asValues, Ordered.get?_map, hvalues] at hv
    obtain ⟨s, hs, rfl⟩ := Option.map_eq_some_iff.1 hv
    show ∃ w, _ ∧ c.get? key = some w
    rw [hget]
    exact Ordered.exists_lookup_of_forall₂
      (R := fun k s v => Configuration.convertEntry tolerance k (.str s) = .ok v)
      (List.forall₂_reverse_iff.2 hconv) hs

/-! ## Other orders -/

/-- The items in another order, in which those of each key stand as before. -/
structure Reordered (items items' : List String) : Prop where
  perm : items'.Perm items
  stable : ∀ key, items'.filter (names key) = items.filter (names key)

/-- The items of a key set the entries of that key. -/
theorem filter_of_sets (key : String) (hes : List.Forall₂ (Sets tolerance) items es) :
    List.Forall₂ (Sets tolerance) (items.filter (names key)) (es.filter fun e => e.1 = key) := by
  induction hes with
  | nil => exact .nil
  | @cons item entry items es hsets _ ih =>
    by_cases hkey : entry.1 = key
    · rw [List.filter_cons_of_pos ((hsets.names_iff key).2 hkey), List.filter_cons_of_pos (by simpa using hkey)]
      exact .cons hsets ih
    · have hnot : ¬ names key item = true := fun hn => hkey ((hsets.names_iff key).1 hn)
      rw [List.filter_cons_of_neg hnot, List.filter_cons_of_neg (by simpa using hkey)]
      exact ih

/-- Another order of the items gives the same keys and values. -/
theorem Reordered.exists_applyOverrides {items' : List String} (h : Reordered items items')
    {c : Configuration} (hc : applyOverrides tolerance items = .ok c) :
    ∃ c', applyOverrides tolerance items' = .ok c' ∧ c'.keys.Perm c.keys ∧
      ∀ key, c'.get? key = c.get? key := by
  obtain ⟨es, hes, -⟩ := foldlM_applyOverride_eq_ok_iff.1 hc
  obtain ⟨es', hes'⟩ := exists_forall₂_sets_iff.2 fun item hitem =>
    exists_forall₂_sets_iff.1 ⟨es, hes⟩ item (h.perm.mem_iff.1 hitem)
  obtain ⟨c', hc', -⟩ := exists_foldlM_applyOverride hes' .empty
  have hget (key : String) : c'.get? key = c.get? key := by
    have hleft := filter_of_sets key hes'
    rw [h.stable key] at hleft
    have hunique : Relator.RightUnique (Sets tolerance) := fun _ _ _ hs hs' => hs.unique hs'
    rw [(values_of_applyOverrides hes' hc').2, (values_of_applyOverrides hes hc).2]
    exact Ordered.lookup_reverse_congr (List.right_unique_forall₂' hunique hleft (filter_of_sets key hes))
  exact ⟨c', hc', Ordered.keys_perm_of_get? hget, hget⟩

/-! ## Command lines -/

/-- The options with some overrides. -/
def withOverrides (options : Options) (items : List String) : Options :=
  options.put CommandOption.dynamic.name (.tuple (items.map .str))

theorem readList_withOverrides (options : Options) (items : List String) :
    readList tolerance (withOverrides options items) .dynamic = .ok items := by
  rw [withOverrides, read_put fun _ _ => readList_congr, if_pos rfl]
  show ConfigOption.texts tolerance (items.map .str) = .ok items
  rw [ConfigOption.texts, ConfigOption.mapM_map_str fun _ => rfl]

/-- When the other options are accepted, overrides are exactly if they set something that can be written; they
are what changes in the overlay. -/
theorem ofOptions_withOverrides_iff {mode : Mode} {options : Options} {o : Overlay}
    (h : ofOptions tolerance mode (withOverrides options []) = .ok o) {o' : Overlay} :
    ofOptions tolerance mode (withOverrides options items) = .ok o' ↔
      ∃ c, applyOverrides tolerance items = .ok c ∧ c.Writable ∧ o' = { o with dynamic := c } := by
  have accepted {c : Configuration} (hc : applyOverrides tolerance items = .ok c) (hwritable : c.Writable) :
      ofOptions tolerance mode (withOverrides options items) = .ok { o with dynamic := c } := by
    have hitems : readList tolerance (.single CommandOption.dynamic.name (.tuple (items.map .str)))
        .dynamic = .ok items := readList_withOverrides .empty items
    have hput := ofOptions_put h (ofOptions_single_dynamic mode hitems hc hwritable)
    rw [withOverrides, Ordered.put_put] at hput
    exact hput
  constructor
  · intro ho'
    obtain ⟨-, hread, htrace⟩ := ofOptions_eq_ok_iff.1 ho'
    obtain ⟨items', hitems', hc⟩ := hread.dynamic
    obtain rfl := Except.ok.inj ((readList_withOverrides options items).symm.trans hitems')
    have hwritable := (trace_eq_ok_iff.1 htrace).2
    exact ⟨o'.dynamic, hc, hwritable, Except.ok.inj (ho'.symm.trans (accepted hc hwritable))⟩
  · rintro ⟨c, hc, hwritable, rfl⟩
    exact accepted hc hwritable

/-- Overrides without numbers that are too long are accepted exactly if each of them sets an entry. -/
theorem exists_ofOptions_withOverrides_iff {mode : Mode} {options : Options} {o : Overlay}
    (h : ofOptions tolerance mode (withOverrides options []) = .ok o)
    (hitems : ∀ item ∈ items, WritableItem tolerance item) :
    (∃ o', ofOptions tolerance mode (withOverrides options items) = .ok o') ↔
      ∀ item ∈ items, ∃ entry, Sets tolerance item entry := by
  rw [← exists_forall₂_sets_iff]
  constructor
  · rintro ⟨o', ho'⟩
    obtain ⟨c, hc, -⟩ := (ofOptions_withOverrides_iff h).1 ho'
    obtain ⟨es, hes, -⟩ := foldlM_applyOverride_eq_ok_iff.1 hc
    exact ⟨es, hes⟩
  · rintro ⟨es, hes⟩
    obtain ⟨c, hc, -⟩ := exists_foldlM_applyOverride hes .empty
    exact ⟨_, (ofOptions_withOverrides_iff h).2 ⟨c, hc, writable_of_applyOverrides hitems hc, rfl⟩⟩

/-- **Repeated overrides.** Beside any other options that are accepted, overrides are accepted exactly if each of
them is accepted alone; so an override that is rejected is not saved by a later one of its key. When they are
accepted they are all texts of assignments, they change nothing else in the overlay, and they come to the
configuration of one mapping, which has the last value of each key at the place where the key occurred first. In
any other order in which those of one key stand as before they are accepted too, and set the same keys to the
same values. -/
theorem ofOptions_overrides {mode : Mode} {options : Options} {o : Overlay}
    (h : ofOptions tolerance mode (withOverrides options []) = .ok o) {items : List String}
    (hitems : ∀ item ∈ items, WritableItem tolerance item) :
    ((∃ o', ofOptions tolerance mode (withOverrides options items) = .ok o') ↔
      ∀ item ∈ items, ∃ o', ofOptions tolerance mode (withOverrides options [item]) = .ok o') ∧
    ∀ o', ofOptions tolerance mode (withOverrides options items) = .ok o' →
      o' = { o with dynamic := o'.dynamic } ∧
      (∃ (pairs : List (String × String)) (m : Ordered String), List.Forall₂ Assigns items pairs ∧
        m.keys = (pairs.map Prod.fst).eraseDups ∧
        (∀ key, m.get? key = Ordered.lookup key pairs.reverse) ∧
        Configuration.ofValues tolerance (SessionRecord.asValues m) = .ok o'.dynamic) ∧
      ∀ items', Reordered items items' →
        ∃ o'', ofOptions tolerance mode (withOverrides options items') = .ok o'' ∧
          o''.dynamic.keys.Perm o'.dynamic.keys ∧ ∀ key, o''.dynamic.get? key = o'.dynamic.get? key := by
  refine ⟨?alone, fun o' ho' => ?together⟩
  case alone =>
    have halone (item : String) (hitem : item ∈ items) :
        (∃ o', ofOptions tolerance mode (withOverrides options [item]) = .ok o') ↔
          ∃ entry, Sets tolerance item entry := by
      rw [exists_ofOptions_withOverrides_iff h (by simpa using hitems item hitem)]
      simp
    rw [exists_ofOptions_withOverrides_iff h hitems]
    exact forall₂_congr fun item hitem => (halone item hitem).symm
  case together =>
    obtain ⟨c, hc, -, rfl⟩ := (ofOptions_withOverrides_iff h).1 ho'
    refine ⟨rfl, exists_batch_of_applyOverrides hc, fun items' horder => ?_⟩
    obtain ⟨c', hc', hkeys, hget⟩ := horder.exists_applyOverrides hc
    have hwritable := writable_of_applyOverrides
      (fun item hitem => hitems item (horder.perm.mem_iff.1 hitem)) hc'
    exact ⟨_, (ofOptions_withOverrides_iff h).2 ⟨c', hc', hwritable, rfl⟩, hkeys, hget⟩

/-- Two overrides of the slots with another one between them, beside a flag. In front of the two the other one
makes no difference. -/
theorem ofOptions_overrides_of_slots : ∃ o' o'',
    ofOptions .standard .run (withOverrides (.single "node_label" (.str "l"))
      ["taskmanager.numberOfTaskSlots=3", "x= a=b ", " taskmanager.numberOfTaskSlots =4"]) = .ok o' ∧
    ofOptions .standard .run (withOverrides (.single "node_label" (.str "l"))
      ["x= a=b ", "taskmanager.numberOfTaskSlots=3", " taskmanager.numberOfTaskSlots =4"]) = .ok o'' ∧
    o'.nodeLabel = some "l" ∧ o'.dynamic.keys = ["taskmanager.numberOfTaskSlots", "x"] ∧
    o'.dynamic.get? "taskmanager.numberOfTaskSlots" = some (.int 4) ∧
    o''.dynamic.get? "taskmanager.numberOfTaskSlots" = some (.int 4) := by
  let slots := "taskmanager.numberOfTaskSlots"
  let first := "taskmanager.numberOfTaskSlots=3"
  let other := "x= a=b "
  let second := " taskmanager.numberOfTaskSlots =4"
  obtain ⟨o, ho⟩ : ∃ o, ofOptions .standard .run (withOverrides (.single "node_label" (.str "l")) []) = .ok o :=
    ⟨_, rfl⟩
  have sets {item key : String} {v : Value} (value : String) (hassign : Text.assignment? item = some (key, value))
      (hconv : Configuration.convertEntry .standard key (.str value) = .ok v)
      (hid : key ≠ ConfigOption.applicationId.key) : Sets .standard item (key, v) :=
    ⟨value, hassign, hconv, fun h => absurd h hid⟩
  have hfirst : Sets .standard first (slots, .int 3) :=
    sets "3" (by decide +kernel) rfl (by decide)
  have hother : Sets .standard other ("x", .str "a=b") :=
    sets "a=b" (by decide +kernel) rfl (by decide)
  have hsecond : Sets .standard second (slots, .int 4) :=
    sets "4" (by decide +kernel) rfl (by decide)
  have writable {item : String} {entry : String × Value} (h : Sets .standard item entry)
      (hw : entry.2.isWritable = true) : WritableItem .standard item := fun e he => h.unique he ▸ hw
  have hitems : ∀ item ∈ [first, other, second], WritableItem .standard item := by
    simp only [List.forall_mem_cons]
    exact ⟨writable hfirst (by decide +kernel), writable hother rfl, writable hsecond (by decide +kernel), nofun⟩
  have horder : Reordered [first, other, second] [other, first, second] := by
    refine ⟨.swap first other [second], fun key => ?_⟩
    have hne : ¬ (names key first = true ∧ names key other = true) := by
      rintro ⟨hslots, hx⟩
      have hsame := ((hfirst.names_iff key).1 hslots).trans ((hother.names_iff key).1 hx).symm
      exact absurd hsame (by decide)
    simp only [List.filter_cons]
    cases hslots : names key first <;> cases hx : names key other <;> simp_all
  obtain ⟨o', ho'⟩ := (exists_ofOptions_withOverrides_iff ho hitems).2 (by
    simp only [List.forall_mem_cons]
    exact ⟨⟨_, hfirst⟩, ⟨_, hother⟩, ⟨_, hsecond⟩, nofun⟩)
  obtain ⟨-, -, hreordered⟩ := (ofOptions_overrides ho hitems).2 o' ho'
  obtain ⟨o'', ho'', -, hget⟩ := hreordered _ horder
  obtain ⟨c, hc, -, rfl⟩ := (ofOptions_withOverrides_iff ho).1 ho'
  obtain ⟨hkeys, hvalues⟩ :=
    values_of_applyOverrides (.cons hfirst (.cons hother (.cons hsecond .nil))) hc
  have hlabel : o.nodeLabel = some "l" := by
    cases ho
    decide +kernel
  refine ⟨_, o'', ho', ho'', hlabel, ?_, hvalues slots, (hget slots).trans (hvalues slots)⟩
  show c.keys = _
  rw [hkeys]
  decide +kernel

end Overlay

end ClusterPlan
