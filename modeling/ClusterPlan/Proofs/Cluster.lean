import ClusterPlan.Cluster
import ClusterPlan.Proofs.Conversion

/-!
# What a cluster is derived from

Every option has a value of its type, stored or by default (`Configuration.holds_of_value?`). So the
derivations can be said in terms of plain texts: the application to attach to is the one whose ID is stored
(`Configuration.clusterId_eq`), and a descriptor shows the ship files and the node label that are stored
(`Configuration.descriptor_eq`).
-/

namespace ClusterPlan

section
variable {tolerance : Tolerance}

namespace ConfigOption

/-- Every default is of the type of its option. -/
theorem holds_default : ∀ o ∈ registry, ∀ v, o.default = some v → o.type.holds v = true := by
  have h : registry.all fun o => o.default.all o.type.holds := by decide
  intro o ho v hv
  simpa [hv] using List.all_eq_true.1 h o ho

end ConfigOption

/-- The text that a value is. -/
def Value.str? : Value → Option String
  | .str s => some s
  | _ => none

namespace Configuration

/-- What an option has in a configuration, stored or by default, is of its type. -/
theorem holds_of_value? {c : Configuration} {o : ConfigOption} (ho : o ∈ ConfigOption.registry)
    {v : Value} (h : c.value? o = some v) : o.type.holds v = true := by
  rcases Option.or_eq_some_iff.1 h with hv | ⟨-, hv⟩
  · exact holds_of_get? ho hv
  · exact ConfigOption.holds_default o ho v hv

/-- An option with a default has a value. -/
theorem exists_value? (c : Configuration) {o : ConfigOption} {d : Value} (hd : o.default = some d) :
    ∃ v, c.value? o = some v := by
  rw [value?, hd]
  cases c.get? o.key with
  | none => exact ⟨d, rfl⟩
  | some v => exact ⟨v, rfl⟩

/-- A memory option with a default has a size. -/
theorem exists_memory (c : Configuration) {o : ConfigOption} (ho : o ∈ ConfigOption.registry)
    (ht : o.type = .memory) {d : Value} (hd : o.default = some d) : ∃ m, c.memory o = .ok m := by
  obtain ⟨v, hv⟩ := exists_value? c hd
  have h := holds_of_value? ho hv
  rw [ht] at h
  cases v with
  | memory m => exact ⟨m, by rw [memory, hv]⟩
  | _ => cases h

/-- The text under a key. -/
def text? (c : Configuration) (key : String) : Option String :=
  (c.get? key).bind Value.str?

/-- The ship files as texts. -/
def shipped (c : Configuration) : List String :=
  match c.value? .shipFiles with
  | some (.list items) => items.filterMap Value.str?
  | _ => []

/-- Under the key of an option for texts there is a text or nothing. -/
theorem get?_string (c : Configuration) {o : ConfigOption} (ho : o ∈ ConfigOption.registry)
    (ht : o.type = .string) : c.get? o.key = (c.text? o.key).map .str := by
  rw [text?]
  cases hv : c.get? o.key with
  | none => rfl
  | some v =>
    have h := holds_of_get? ho hv
    rw [ht] at h
    cases v with
    | str s => rfl
    | _ => cases h

/-- Under the key of the ship files, by default too, there is a list of texts. -/
theorem value?_shipFiles (c : Configuration) :
    c.value? .shipFiles = some (.list (c.shipped.map .str)) := by
  obtain ⟨v, hv⟩ := exists_value? c (o := .shipFiles) rfl
  have h := holds_of_value? (by simp [ConfigOption.registry]) hv
  rw [shipped, hv]
  cases v with
  | list items =>
    obtain ⟨ss, rfl⟩ := ConfigOption.exists_map_str h
    have : (ss.map Value.str).filterMap Value.str? = ss := by
      rw [List.filterMap_map]; exact List.filterMap_some
    simp only [this]
  | _ => cases h

/-- The application to attach to is the one whose ID is stored. -/
theorem clusterId_eq (c : Configuration) : c.clusterId tolerance =
    match c.text? ConfigOption.applicationId.key with
    | none => .ok none
    | some s => some <$> ApplicationId.parse s := by
  have h := get?_string c (o := .applicationId) (by simp [ConfigOption.registry]) rfl
  rw [clusterId, value?, h]
  cases c.text? ConfigOption.applicationId.key with
  | none => rfl
  | some s =>
    show (do return some (← ApplicationId.parse s)) = some <$> ApplicationId.parse s
    cases ApplicationId.parse s <;> rfl

/-- It does not matter for the application how sizes are shown. -/
theorem clusterId_tolerance (tolerance tolerance' : Tolerance) (c : Configuration) :
    c.clusterId tolerance' = c.clusterId tolerance :=
  (clusterId_eq c).trans (clusterId_eq c).symm

/-- There is an application to attach to exactly if an ID is stored that reads as it. -/
theorem clusterId_eq_some_iff {c : Configuration} {application : ApplicationId} :
    c.clusterId tolerance = .ok (some application) ↔
      ∃ s, c.text? ConfigOption.applicationId.key = some s ∧ ApplicationId.parse s = .ok application := by
  rw [clusterId_eq]
  cases c.text? ConfigOption.applicationId.key with
  | none => simp
  | some s => cases hs : ApplicationId.parse s <;> simp [hs]

/-- The application to attach to depends on its own option only. -/
theorem clusterId_congr {c d : Configuration}
    (h : d.value? .applicationId = c.value? .applicationId) :
    d.clusterId tolerance = c.clusterId tolerance := by
  rw [clusterId, clusterId, h]

/-- The shape of the cluster depends on the sizes and on the slots only. -/
theorem specification_congr {c d : Configuration}
    (hmaster : d.value? .masterMemory = c.value? .masterMemory)
    (hworker : d.value? .workerMemory = c.value? .workerMemory)
    (hslots : d.value? .slots = c.value? .slots) : d.specification = c.specification := by
  simp only [specification, memory, hmaster, hworker, hslots]

/-- What a configuration is after the application to attach to has become its namespace. -/
inductive NamedAfter (tolerance : Tolerance) (c : Configuration) : Configuration → Prop
  /-- There is no application, or there is a namespace already. -/
  | kept {id : Option ApplicationId} : c.clusterId tolerance = .ok id →
      id = none ∨ c.contains .namespaceId = true → NamedAfter tolerance c c
  /-- The text of the application stands behind everything else. -/
  | added {application : ApplicationId} {name : String} {d : Configuration} :
      c.clusterId tolerance = .ok (some application) → c.contains .namespaceId = false →
      application.text = .ok name →
      d.entries = c.entries ++ [(ConfigOption.namespaceId.key, .str name)] → NamedAfter tolerance c d

/-- A namespace that is set where there is none stands behind everything else. -/
theorem set_namespace_eq_ok_iff {c d : Configuration} {name : String}
    (h : c.contains .namespaceId = false) :
    c.set tolerance ConfigOption.namespaceId.key (.str name) = .ok d ↔
      d.entries = c.entries ++ [(ConfigOption.namespaceId.key, .str name)] := by
  have hname : convertEntry tolerance ConfigOption.namespaceId.key (.str name) = .ok (.str name) :=
    convertEntry_of_holds (by simp [ConfigOption.registry]) rfl
  have hnew : ConfigOption.namespaceId.key ∉ c.values.keys := by
    rw [← Ordered.get?_eq_none_iff]
    exact Option.not_isSome_iff_eq_none.1 (Bool.eq_false_iff.1 h)
  have hput := Ordered.entries_put_of_not_mem hnew (.str name)
  rw [set_eq_ok_iff, hname]
  constructor
  · rintro ⟨w, hw, hd⟩
    obtain rfl := Except.ok.inj hw
    exact (congrArg _ hd).trans hput
  · intro hd
    exact ⟨_, rfl, Ordered.ext (hd.trans hput.symm)⟩

theorem withNamespace_eq_ok_iff {c d : Configuration} :
    c.withNamespace tolerance = .ok d ↔ c.NamedAfter tolerance d := by
  constructor
  · intro h
    obtain ⟨id, hid, h⟩ := bind_eq_ok.1 h
    cases id with
    | none => exact Except.ok.inj h ▸ .kept hid (.inl rfl)
    | some application =>
      replace h : (if c.contains .namespaceId then Except.ok c else _) = .ok d := h
      split at h
      · next hset => exact Except.ok.inj h ▸ .kept hid (.inr hset)
      · next hset =>
        obtain ⟨name, hname, h⟩ := bind_eq_ok.1 h
        replace hset := Bool.eq_false_iff.2 hset
        exact .added hid hset hname ((set_namespace_eq_ok_iff hset).1 h)
  · intro h
    cases h with
    | @kept id hid h =>
      refine bind_eq_ok.2 ⟨id, hid, ?_⟩
      cases id with
      | none => rfl
      | some application => exact if_pos (h.resolve_left nofun)
    | @added application name d hid hset hname hd =>
      refine bind_eq_ok.2 ⟨some application, hid, (if_neg (Bool.eq_false_iff.1 hset)).trans ?_⟩
      exact bind_eq_ok.2 ⟨name, hname, (set_namespace_eq_ok_iff hset).2 hd⟩

/-- An entry at the end is found under its key. -/
theorem get?_of_entries_eq {d : Configuration} {es : List (String × Value)} {key : String} {v : Value}
    (h : d.entries = es ++ [(key, v)]) : d.get? key = some v := by
  refine Ordered.get?_eq_some_iff.2 ?_
  show (key, v) ∈ d.entries
  rw [h]
  exact List.mem_append_right _ List.mem_cons_self

/-- Nothing but the namespace changes. -/
theorem NamedAfter.get?_of_ne {c d : Configuration} (h : c.NamedAfter tolerance d) {key : String}
    (hk : key ≠ ConfigOption.namespaceId.key) : d.get? key = c.get? key := by
  cases h with
  | kept => rfl
  | added _ _ _ hd =>
    show Ordered.lookup key d.entries = c.get? key
    rw [hd, Ordered.lookup_append, Ordered.lookup_singleton_of_ne _ hk.symm, Option.or_none]
    rfl

/-- A descriptor shows the ship files and the node label that are stored; nothing but the namespace can
keep it from being made. -/
theorem descriptor_eq (directory : Path) (c : Configuration) :
    c.descriptor tolerance directory = (do
      let d ← c.withNamespace tolerance
      return ⟨d, d.shipped.map fun f => directory.join (.ofString f),
        d.text? ConfigOption.nodeLabel.key⟩) := by
  rw [descriptor]
  congr 1
  funext d
  have h := get?_string d (o := .nodeLabel) (by simp [ConfigOption.registry]) rfl
  have hitems : (d.shipped.map .str).mapM (ConfigOption.itemText .shipFiles) = .ok d.shipped :=
    ConfigOption.mapM_map_str (fun _ => rfl) _
  simp only [value?_shipFiles, hitems]
  simp only [value?, h]
  cases d.text? ConfigOption.nodeLabel.key <;> rfl

end Configuration

end

end ClusterPlan
