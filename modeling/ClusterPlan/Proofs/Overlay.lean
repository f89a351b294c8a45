import ClusterPlan.Proofs.ApplicationId
import ClusterPlan.Proofs.Choices

/-!
# Accepted overlays

Overrides are accepted when each of them sets an entry, and they put these entries one after the other
(`Overlay.foldlM_applyOverride_eq_ok_iff`). Options are accepted when there is an overlay that can be read from
them and traced (`Overlay.ofOptions_eq_ok_iff`). It is of the mode that was asked for, its numbers and overrides
are writable, and whatever names an application in it, the flag or an override, is an ID that can be read
(`Overlay.Sound`). The options of an overlay can always be set (`Overlay.exists_toConfiguration`).
-/

namespace ClusterPlan

/-- If a configuration names an application, then by an ID that can be read. -/
def Configuration.ReadableId (c : Configuration) : Prop :=
  ∀ v, c.get? ConfigOption.applicationId.key = some v →
    ∃ s id, v = .str s ∧ ApplicationId.parse s = .ok id

namespace Overlay

variable {tolerance : Tolerance}

/-! ## What an overlay sets -/

/-- What an overlay sets, option by option. -/
def choices (o : Overlay) : Choices :=
  [(.applicationId, o.clusterId.map .str),
    (.masterMemory, o.masterMemory.map .memory),
    (.workerMemory, o.workerMemory.map .memory),
    (.slots, o.slots.map .int),
    (.namespaceId, o.namespaceId.map .str),
    (.nodeLabel, o.nodeLabel.map .str),
    (.attached, if o.detached then some (.bool false) else none),
    (.shipFiles, if o.shipFiles.isEmpty then none else some (.list (o.shipFiles.map .str)))]

theorem toConfiguration_eq (o : Overlay) :
    o.toConfiguration tolerance = o.choices.apply tolerance .empty := by
  simp [toConfiguration, choices, Choices.apply]

theorem distinct_choices (o : Overlay) : o.choices.Distinct := by
  show [ConfigOption.applicationId, .masterMemory, .workerMemory, .slots, .namespaceId, .nodeLabel,
    .attached, .shipFiles].map ConfigOption.key |>.Nodup
  decide

/-- An overlay sets known options only. -/
theorem mem_registry_of_mem_choices {o : Overlay} {opt : ConfigOption} {x : Option Value}
    (h : (opt, x) ∈ o.choices) : opt ∈ ConfigOption.registry := by
  simp only [choices, List.mem_cons, Prod.mk.injEq, List.not_mem_nil, or_false] at h
  rcases h with ⟨rfl, -⟩ | ⟨rfl, -⟩ | ⟨rfl, -⟩ | ⟨rfl, -⟩ | ⟨rfl, -⟩ | ⟨rfl, -⟩ | ⟨rfl, -⟩ | ⟨rfl, -⟩ <;>
    simp [ConfigOption.registry]

/-- An overlay sets values of the right types only. -/
theorem hold_choices (o : Overlay) : o.choices.Hold := by
  intro opt v h
  refine ⟨mem_registry_of_mem_choices h, ?_⟩
  have of_map {α : Type} {f : α → Value} {x : Option α} {opt : ConfigOption}
      (hf : ∀ a, opt.type.holds (f a) = true) (hv : some v = x.map f) : opt.type.holds v = true := by
    obtain ⟨a, -, rfl⟩ := Option.map_eq_some_iff.1 hv.symm
    exact hf a
  simp only [choices, List.mem_cons, Prod.mk.injEq, List.not_mem_nil, or_false] at h
  rcases h with ⟨rfl, h⟩ | ⟨rfl, h⟩ | ⟨rfl, h⟩ | ⟨rfl, h⟩ | ⟨rfl, h⟩ | ⟨rfl, h⟩ | ⟨rfl, h⟩ | ⟨rfl, h⟩
  · exact of_map (fun _ => rfl) h
  · exact of_map (fun _ => rfl) h
  · exact of_map (fun _ => rfl) h
  · exact of_map (fun _ => rfl) h
  · exact of_map (fun _ => rfl) h
  · exact of_map (fun _ => rfl) h
  · split at h
    · cases h; rfl
    · cases h
  · split at h
    · cases h
    · cases h; simp [ConfigOption.shipFiles, OptionType.holds, OptionType.isText]

/-- An overlay can be traced exactly when its numbers and its overrides are writable. -/
theorem trace_eq_ok_iff {o : Overlay} : o.trace = .ok () ↔
    (∀ v ∈ o.numbers, v.isWritable = true) ∧ o.dynamic.Writable := by
  rw [trace, bind_eq_ok, List.forM_eq_forM, Configuration.writable_iff, ← discard_eq_ok]
  constructor
  · rintro ⟨⟨⟩, hn, hd⟩
    exact ⟨fun v hv => Value.discard_quoted_eq_ok.1 (forM_eq_ok.1 hn v hv), hd⟩
  · rintro ⟨hn, hd⟩
    exact ⟨(), forM_eq_ok.2 fun v hv => Value.discard_quoted_eq_ok.2 (hn v hv), hd⟩

/-- If the numbers of an overlay are writable, so is everything that it sets. -/
theorem isWritable_of_mem_choices {o : Overlay} (ho : ∀ v ∈ o.numbers, v.isWritable = true)
    {opt : ConfigOption} {v : Value} (h : (opt, some v) ∈ o.choices) : v.isWritable = true := by
  have of_str {x : Option String} (hv : some v = x.map .str) : v.isWritable = true := by
    obtain ⟨s, -, rfl⟩ := Option.map_eq_some_iff.1 hv.symm
    rfl
  have of_number {x : Option Value} (hx : x ∈ [o.masterMemory.map .memory,
      o.workerMemory.map .memory, o.slots.map .int]) (hv : some v = x) : v.isWritable = true :=
    ho v (List.mem_filterMap.2 ⟨x, hx, hv.symm⟩)
  simp only [choices, List.mem_cons, Prod.mk.injEq, List.not_mem_nil, or_false] at h
  rcases h with ⟨-, h⟩ | ⟨-, h⟩ | ⟨-, h⟩ | ⟨-, h⟩ | ⟨-, h⟩ | ⟨-, h⟩ | ⟨-, h⟩ | ⟨-, h⟩
  · exact of_str h
  · exact of_number (by simp) h
  · exact of_number (by simp) h
  · exact of_number (by simp) h
  · exact of_str h
  · exact of_str h
  · split at h
    · cases h; rfl
    · cases h
  · split at h
    · cases h
    · cases h; exact Value.isWritable_texts _

/-- What the options of an overlay come to. -/
theorem values_of_toConfiguration {o : Overlay} {c : Configuration}
    (h : o.toConfiguration tolerance = .ok c) :
    c.values = Configuration.empty.values.putAll o.choices.entries := by
  obtain ⟨d, hd, hv⟩ : ∃ d, o.choices.apply tolerance .empty = .ok d ∧ _ :=
    Choices.exists_apply o.hold_choices .empty
  rw [← toConfiguration_eq, h] at hd
  exact Except.ok.inj hd ▸ hv

/-- What an overlay sets is of the type of a known option. -/
theorem exists_option_of_toConfiguration {o : Overlay} {c : Configuration}
    (h : o.toConfiguration tolerance = .ok c) {key : String} {v : Value} (hv : c.get? key = some v) :
    ∃ opt ∈ ConfigOption.registry, opt.key = key ∧ opt.type.holds v = true := by
  rcases Choices.mem_or_of_get? (values_of_toConfiguration h) hv with ⟨opt, hm, hkey⟩ | hv
  · obtain ⟨hopt, hholds⟩ := o.hold_choices opt v hm
    exact ⟨opt, hopt, hkey, hholds⟩
  · cases hv

/-- No value that an overlay sets contains itself. -/
theorem finite_of_toConfiguration {o : Overlay} {c : Configuration}
    (h : o.toConfiguration tolerance = .ok c) : c.Finite :=
  Choices.finite o.hold_choices (values_of_toConfiguration h) Configuration.finite_empty

/-- The options of an overlay can always be set, and among what they set is the application to attach to.
Writable numbers make a writable configuration. -/
theorem exists_toConfiguration (o : Overlay) (tolerance : Tolerance) :
    ∃ c, o.toConfiguration tolerance = .ok c ∧
    c.get? ConfigOption.applicationId.key = o.clusterId.map .str ∧
    ((∀ v ∈ o.numbers, v.isWritable = true) → c.Writable) := by
  obtain ⟨c, hc, hv⟩ := Choices.exists_apply o.hold_choices .empty
  refine ⟨c, (o.toConfiguration_eq).trans hc, ?_, fun ho => ?_⟩
  · have := Choices.get?_of_mem o.distinct_choices hv (o := .applicationId) List.mem_cons_self
    exact this.trans (Option.or_none)
  · exact Choices.writable hv (fun _ _ => nofun) fun _ _ => isWritable_of_mem_choices ho

/-- The application that the flag names is one. -/
theorem exists_parse_of_readClusterId {options : Options} {s : String}
    (h : readClusterId tolerance options = .ok (some s)) : ∃ id, ApplicationId.parse s = .ok id := by
  obtain ⟨raw, -, h⟩ := bind_eq_ok.1 h
  cases raw with
  | none => cases h
  | some raw =>
    cases hid : ApplicationId.parse raw with
    | error f => simp [hid, throw, throwThe, MonadExceptOf.throw] at h
    | ok id =>
      simp only [hid] at h
      cases h
      exact ⟨id, hid⟩

/-- The number of slots that the option names is one that its text reads as, and at least one. -/
theorem one_le_of_readSlots {options : Options} {i : Int}
    (h : readSlots tolerance options = .ok (some i)) :
    1 ≤ i ∧ ∃ text, Text.readInt text = .number i := by
  unfold readSlots at h
  split at h
  · cases h
  · obtain ⟨text, -, h⟩ := bind_eq_ok.1 h
    split at h
    · next j hj =>
      by_cases hlt : j < 1
      · rw [if_pos hlt] at h
        obtain ⟨_, -, h⟩ := bind_eq_ok.1 h
        obtain ⟨_, h, -⟩ := bind_eq_ok.1 h
        cases h
      · rw [if_neg hlt] at h
        cases h
        exact ⟨Int.not_lt.1 hlt, _, hj⟩
    · cases h

/-! ## Overrides -/

/-- An override sets an entry: the key in front of its first equals sign, with what the option makes of the
text behind it. The text of an application ID must be one. -/
def Sets (tolerance : Tolerance) (item : String) (entry : String × Value) : Prop :=
  ∃ value, Text.assignment? item = some (entry.1, value) ∧
    Configuration.convertEntry tolerance entry.1 (.str value) = .ok entry.2 ∧
    (entry.1 = ConfigOption.applicationId.key → ∃ id, ApplicationId.parse value = .ok id)

theorem putOverride_eq_ok_iff {c d : Configuration} {key value : String} :
    putOverride tolerance c key value = .ok d ↔
      ∃ v, Configuration.convertEntry tolerance key (.str value) = .ok v ∧
        (key = ConfigOption.applicationId.key → ∃ id, ApplicationId.parse value = .ok id) ∧
        d.values = c.values.put key v := by
  rw [putOverride, bind_eq_ok]
  constructor
  · rintro ⟨c', hset, h⟩
    obtain ⟨v, hv, hval⟩ := Configuration.set_eq_ok_iff.1 hset
    by_cases hk : key = ConfigOption.applicationId.key
    · rw [if_pos hk] at h
      obtain ⟨⟨⟩, hid, h⟩ := bind_eq_ok.1 h
      cases h
      exact ⟨v, hv, fun _ => discard_eq_ok.1 hid, hval⟩
    · rw [if_neg hk] at h
      cases h
      exact ⟨v, hv, fun h => absurd h hk, hval⟩
  · rintro ⟨v, hv, hid, hval⟩
    refine ⟨d, Configuration.set_eq_ok_iff.2 ⟨v, hv, hval⟩, ?_⟩
    by_cases hk : key = ConfigOption.applicationId.key
    · rw [if_pos hk, bind_eq_ok]
      exact ⟨(), discard_eq_ok.2 (hid hk), rfl⟩
    · rw [if_neg hk]
      rfl

/-- Applying an override puts the entry that it sets. -/
theorem applyOverride_eq_ok_iff {c d : Configuration} {item : String} :
    applyOverride tolerance c item = .ok d ↔
      ∃ entry, Sets tolerance item entry ∧ d.values = c.values.put entry.1 entry.2 := by
  unfold applyOverride
  split
  · next hitem =>
    refine ⟨nofun, ?_⟩
    rintro ⟨entry, ⟨value, h, -⟩, -⟩
    cases hitem.symm.trans h
  · next key value hitem =>
    refine Iff.trans (b := putOverride tolerance c key value = .ok d) ?_ ?_
    · cases putOverride tolerance c key value <;> simp
    rw [putOverride_eq_ok_iff]
    constructor
    · rintro ⟨v, hv, hid, hval⟩
      exact ⟨(key, v), ⟨value, hitem, hv, hid⟩, hval⟩
    · rintro ⟨⟨key', v⟩, ⟨value', h, hv, hid⟩, hval⟩
      cases hitem.symm.trans h
      exact ⟨v, hv, hid, hval⟩

/-- Overrides put the entries that they set, one after the other. -/
theorem exists_foldlM_applyOverride {items : List String} {es : List (String × Value)}
    (h : List.Forall₂ (Sets tolerance) items es) (c : Configuration) :
    ∃ d, items.foldlM (applyOverride tolerance) c = .ok d ∧ d.values = c.values.putAll es := by
  induction h generalizing c with
  | nil => exact ⟨c, rfl, rfl⟩
  | @cons item entry items es hsets _ ih =>
    have ⟨value, _, hconv, _⟩ := hsets
    obtain ⟨c', -, hval⟩ := Configuration.exists_set c hconv
    obtain ⟨d, hd, hdval⟩ := ih c'
    refine ⟨d, ?_, ?_⟩
    · rw [List.foldlM_cons, bind_eq_ok]
      exact ⟨c', applyOverride_eq_ok_iff.2 ⟨entry, hsets, hval⟩, hd⟩
    · rw [hdval, hval]
      rfl

theorem foldlM_applyOverride_eq_ok_iff {items : List String} {c d : Configuration} :
    items.foldlM (applyOverride tolerance) c = .ok d ↔
      ∃ es, List.Forall₂ (Sets tolerance) items es ∧ d.values = c.values.putAll es := by
  constructor
  · intro h
    induction items generalizing c with
    | nil => cases h; exact ⟨[], .nil, rfl⟩
    | cons item items ih =>
      rw [List.foldlM_cons] at h
      obtain ⟨c', hc', h⟩ := bind_eq_ok.1 h
      obtain ⟨entry, hsets, hval⟩ := applyOverride_eq_ok_iff.1 hc'
      obtain ⟨es, hes, hdval⟩ := ih h
      exact ⟨entry :: es, .cons hsets hes, by rw [hdval, hval]; rfl⟩
  · rintro ⟨es, hes, hval⟩
    obtain ⟨d', hd', hval'⟩ := exists_foldlM_applyOverride hes c
    rw [hd', Configuration.ext (hval'.trans hval.symm)]

/-- Each value that overrides store is set by one of them. -/
theorem exists_sets_of_applyOverrides {items : List String} {d : Configuration}
    (h : applyOverrides tolerance items = .ok d) {key : String} {v : Value} (hv : d.get? key = some v) :
    ∃ item ∈ items, Sets tolerance item (key, v) := by
  obtain ⟨es, hes, hval⟩ := foldlM_applyOverride_eq_ok_iff.1 h
  rw [Configuration.get?, hval, Ordered.get?_putAll] at hv
  have he : (key, v) ∈ es := by
    rcases Option.or_eq_some_iff.1 hv with hv | ⟨-, hv⟩
    · exact List.mem_reverse.1 (Ordered.mem_of_lookup hv)
    · cases hv
  exact exists_mem_of_forall₂ hes he

/-- Overrides are texts, so none of them contains itself. -/
theorem finite_of_applyOverrides {items : List String} {d : Configuration}
    (h : applyOverrides tolerance items = .ok d) : d.Finite := by
  intro key v hv
  obtain ⟨item, -, value, -, hconv, -⟩ := exists_sets_of_applyOverrides h hv
  exact Configuration.isFinite_of_convertEntry rfl hconv

/-- Overrides that are accepted name an application only by an ID that can be read. -/
theorem readable_of_applyOverrides {items : List String} {d : Configuration}
    (h : applyOverrides tolerance items = .ok d) : d.ReadableId := by
  intro v hv
  obtain ⟨item, -, value, -, hconv, hid⟩ := exists_sets_of_applyOverrides h hv
  have hstr : Configuration.convertEntry tolerance ConfigOption.applicationId.key (.str value) =
      .ok (.str value) := Configuration.convertEntry_of_holds (by simp [ConfigOption.registry]) rfl
  obtain ⟨id, hid⟩ := hid rfl
  exact ⟨value, id, (Except.ok.inj (hstr.symm.trans hconv)).symm, hid⟩

/-! ## Accepted options -/

/-- What an overlay has been read from: each of its parts from an option of its own. -/
structure ReadFrom (tolerance : Tolerance) (options : Options) (o : Overlay) : Prop where
  clusterId : readClusterId tolerance options = .ok o.clusterId
  masterMemory : readMemory tolerance options .masterMemory = .ok o.masterMemory
  workerMemory : readMemory tolerance options .workerMemory = .ok o.workerMemory
  slots : readSlots tolerance options = .ok o.slots
  detached : o.detached = ((given? options .detached).map Value.truthy).getD false
  namespaceId : readText tolerance options .namespaceId = .ok o.namespaceId
  nodeLabel : readText tolerance options .nodeLabel = .ok o.nodeLabel
  shipFiles : readList tolerance options .ship = .ok o.shipFiles
  dynamic : ∃ items, readList tolerance options .dynamic = .ok items ∧
    applyOverrides tolerance items = .ok o.dynamic

/-- Options are accepted when there is an overlay that can be read from them and traced. -/
theorem ofOptions_eq_ok_iff {mode : Mode} {options : Options} {o : Overlay} :
    ofOptions tolerance mode options = .ok o ↔
      o.mode = mode ∧ ReadFrom tolerance options o ∧ o.trace = .ok () := by
  constructor
  · intro h
    obtain ⟨clusterId, h₁, h⟩ := bind_eq_ok.1 h
    obtain ⟨masterMemory, h₂, h⟩ := bind_eq_ok.1 h
    obtain ⟨workerMemory, h₃, h⟩ := bind_eq_ok.1 h
    obtain ⟨slots, h₄, h⟩ := bind_eq_ok.1 h
    obtain ⟨namespaceId, h₅, h⟩ := bind_eq_ok.1 h
    obtain ⟨nodeLabel, h₆, h⟩ := bind_eq_ok.1 h
    obtain ⟨shipFiles, h₇, h⟩ := bind_eq_ok.1 h
    obtain ⟨items, h₈, h⟩ := bind_eq_ok.1 h
    obtain ⟨dynamic, h₉, h⟩ := bind_eq_ok.1 h
    obtain ⟨⟨⟩, ht, h⟩ := bind_eq_ok.1 h
    cases h
    exact ⟨rfl, ⟨h₁, h₂, h₃, h₄, rfl, h₅, h₆, h₇, items, h₈, h₉⟩, ht⟩
  · rintro ⟨rfl, ⟨h₁, h₂, h₃, h₄, h, h₅, h₆, h₇, items, h₈, h₉⟩, ht⟩
    obtain ⟨mode, clusterId, masterMemory, workerMemory, slots, detached, namespaceId, nodeLabel,
      shipFiles, dynamic⟩ := o
    subst h
    exact bind_eq_ok.2 ⟨_, h₁, bind_eq_ok.2 ⟨_, h₂, bind_eq_ok.2 ⟨_, h₃, bind_eq_ok.2 ⟨_, h₄,
      bind_eq_ok.2 ⟨_, h₅, bind_eq_ok.2 ⟨_, h₆, bind_eq_ok.2 ⟨_, h₇, bind_eq_ok.2 ⟨_, h₈,
      bind_eq_ok.2 ⟨_, h₉, bind_eq_ok.2 ⟨(), ht, rfl⟩⟩⟩⟩⟩⟩⟩⟩⟩⟩

/-- Overrides that do not name a key set nothing under it. -/
theorem ReadFrom.get?_dynamic {options : Options} {o : Overlay} (h : ReadFrom tolerance options o)
    {items : List String} (hitems : readList tolerance options .dynamic = .ok items) {key : String}
    (hkey : ∀ item ∈ items, ∀ k value, Text.assignment? item = some (k, value) → k ≠ key) :
    o.dynamic.get? key = none := by
  obtain ⟨items', hitems', happly⟩ := h.dynamic
  obtain rfl := Except.ok.inj (hitems.symm.trans hitems')
  refine Option.eq_none_iff_forall_ne_some.2 fun v hv => ?_
  obtain ⟨item, hitem, value, hassign, -⟩ := exists_sets_of_applyOverrides happly hv
  exact hkey item hitem key value hassign rfl

/-- What holds of an overlay of accepted options. -/
structure Sound (o : Overlay) : Prop where
  numbers : ∀ v ∈ o.numbers, v.isWritable = true
  dynamic : o.dynamic.Writable
  finite : o.dynamic.Finite
  flag : ∀ s, o.clusterId = some s → ∃ id, ApplicationId.parse s = .ok id
  override : o.dynamic.ReadableId

/-- Accepted options give a sound overlay of the mode that was asked for. -/
theorem sound_of_ofOptions {mode : Mode} {options : Options} {o : Overlay}
    (h : ofOptions tolerance mode options = .ok o) : o.mode = mode ∧ o.Sound := by
  obtain ⟨hmode, hread, htrace⟩ := ofOptions_eq_ok_iff.1 h
  have ⟨hnumbers, hdynamic⟩ := trace_eq_ok_iff.1 htrace
  obtain ⟨items, -, hitems⟩ := hread.dynamic
  refine ⟨hmode, hnumbers, hdynamic, finite_of_applyOverrides hitems, fun s hs => ?_,
    readable_of_applyOverrides hitems⟩
  exact exists_parse_of_readClusterId (hs ▸ hread.clusterId)

end Overlay

end ClusterPlan
