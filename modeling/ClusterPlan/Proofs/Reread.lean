import ClusterPlan.Proofs.ApplicationId
import ClusterPlan.Proofs.Cluster
import ClusterPlan.Proofs.Format
import ClusterPlan.Proofs.Session
import ClusterPlan.Proofs.SizeText

/-!
# Configurations that are written and read again

A configuration that is written as texts and read again has the same keys in order and the same value under
each known key, and so the same cluster is derived from it (`Configuration.written_and_read`). It can be
written exactly when each size under a key that is not known has a text, and so lies within two bounds; sizes
under known keys are written in another way, and always can be.
-/

namespace ClusterPlan

section
variable {tolerance : Tolerance}

/-- Only for a size there is more to the text of a value than its numbers. -/
theorem Value.exists_text {v : Value} (hw : v.isWritable = true)
    (hm : ∀ m, v = .memory m → ∃ s, m.text tolerance = .ok s) : ∃ s, v.text tolerance = .ok s := by
  cases v with
  | memory m => exact hm m rfl
  | str s => exact ⟨s, rfl⟩
  | duration d => exact ⟨_, rfl⟩
  | moment m => exact ⟨_, rfl⟩
  | null | bool | int | float | bytes | list | tuple | set | mapping | knot => exact exists_quoted hw

namespace Configuration

variable {c d : Configuration}

/-! ## Configurations that are alike -/

/-- Two configurations have the same values under the known keys. -/
def Alike (c d : Configuration) : Prop :=
  ∀ key o, ConfigOption.known? key = some o → d.get? key = c.get? key

theorem Alike.get? (h : c.Alike d) {o : ConfigOption} (ho : o ∈ ConfigOption.registry) :
    d.get? o.key = c.get? o.key :=
  h o.key o (ConfigOption.known?_key ho)

theorem Alike.value? (h : c.Alike d) {o : ConfigOption} (ho : o ∈ ConfigOption.registry) :
    d.value? o = c.value? o := by
  rw [Configuration.value?, Configuration.value?, h.get? ho]

/-- The shape of the cluster depends on the known keys only. -/
theorem Alike.specification (h : c.Alike d) : d.specification = c.specification :=
  specification_congr (h.value? (by simp [ConfigOption.registry]))
    (h.value? (by simp [ConfigOption.registry])) (h.value? (by simp [ConfigOption.registry]))

/-- So does the application to attach to. -/
theorem Alike.clusterId (h : c.Alike d) : d.clusterId tolerance = c.clusterId tolerance :=
  clusterId_congr (h.value? (by simp [ConfigOption.registry]))

/-- The application to attach to has a text. -/
theorem exists_text_of_clusterId {id : ApplicationId} (h : c.clusterId tolerance = .ok (some id)) :
    ∃ t, id.text = .ok t := by
  obtain ⟨s, -, hs⟩ := clusterId_eq_some_iff.1 h
  exact (ApplicationId.exists_text hs).imp fun _ => And.left

/-- The namespace follows when the application to attach to can be told. -/
theorem exists_withNamespace {id : Option ApplicationId} (h : c.clusterId tolerance = .ok id) :
    ∃ d, c.withNamespace tolerance = .ok d := by
  cases id with
  | none => exact ⟨c, withNamespace_eq_ok_iff.2 (.kept h (.inl rfl))⟩
  | some application =>
    cases hset : c.contains .namespaceId with
    | true => exact ⟨c, withNamespace_eq_ok_iff.2 (.kept h (.inr hset))⟩
    | false =>
      obtain ⟨name, hname⟩ := exists_text_of_clusterId h
      have hs : convertEntry tolerance ConfigOption.namespaceId.key (.str name) = .ok (.str name) :=
        convertEntry_of_holds (by simp [ConfigOption.registry]) rfl
      obtain ⟨d, hd, -⟩ := exists_set c hs
      have hentries := (set_namespace_eq_ok_iff hset).1 hd
      exact ⟨d, withNamespace_eq_ok_iff.2 (.added h hset hname hentries)⟩

theorem withNamespace_eq_error {f : Failure} (h : c.clusterId tolerance = .error f) :
    c.withNamespace tolerance = .error f := by
  rw [withNamespace, h]
  rfl

/-- A descriptor can be made when the application to attach to can be told, and it shows the node label
that is stored. -/
theorem nodeLabel_descriptor (directory : Path) (c : Configuration) :
    (·.nodeLabel) <$> c.descriptor tolerance directory =
      (fun _ => c.text? ConfigOption.nodeLabel.key) <$> c.clusterId tolerance := by
  rw [descriptor_eq]
  cases hid : c.clusterId tolerance with
  | error f =>
    rw [withNamespace_eq_error hid]
    rfl
  | ok id =>
    obtain ⟨d, hd⟩ := exists_withNamespace hid
    have hlabel : d.get? ConfigOption.nodeLabel.key = c.get? ConfigOption.nodeLabel.key :=
      (withNamespace_eq_ok_iff.1 hd).get?_of_ne (by decide)
    rw [hd, text?, ← hlabel]
    rfl

theorem Alike.nodeLabel_descriptor (h : c.Alike d) (directory : Path) :
    (·.nodeLabel) <$> d.descriptor tolerance directory =
      (·.nodeLabel) <$> c.descriptor tolerance directory := by
  have hlabel := h.get? (o := .nodeLabel) (by simp [ConfigOption.registry])
  rw [Configuration.nodeLabel_descriptor, Configuration.nodeLabel_descriptor, h.clusterId, text?, text?,
    hlabel]

/-! ## Writing and reading -/

/-- The known keys were set from plain values. -/
def SetFromPlain (c : Configuration) : Prop :=
  ∀ key o v, ConfigOption.known? key = some o → c.get? key = some v →
    ∃ tolerance raw, raw.Plain ∧ o.convert tolerance raw = .ok v

/-- The sizes under keys that are not known have texts. -/
def SizesShown (tolerance : Tolerance) (c : Configuration) : Prop :=
  ∀ key m, ConfigOption.known? key = none → c.get? key = some (.memory m) →
    ∃ s, m.text tolerance = .ok s

/-- The text under a known key reads back. -/
theorem exists_formatEntry (tolerance : Tolerance) (hw : c.Writable) (hc : c.SetFromPlain)
    {key : String} {o : ConfigOption} (ho : ConfigOption.known? key = some o) {v : Value}
    (hv : c.get? key = some v) :
    ∃ s, formatEntry tolerance key v = .ok s ∧ convertEntry tolerance key (.str s) = .ok v := by
  obtain ⟨t, raw, hraw, hconv⟩ := hc key o v ho hv
  obtain ⟨s, hs, hread⟩ := ConfigOption.exists_format (ConfigOption.holds_of_convert hconv)
    (ConfigOption.readable_of_convert hraw hconv) (hw key v hv) tolerance tolerance
  exact ⟨s, by rw [formatEntry, ho]; exact hs, by rw [convertEntry, ho]; exact hread⟩

/-- A configuration can be written exactly when its sizes under other keys can be shown. -/
theorem exists_toStrings_iff (hw : c.Writable) (hc : c.SetFromPlain) :
    (∃ strings, c.toStrings tolerance = .ok strings) ↔ c.SizesShown tolerance := by
  constructor
  · rintro ⟨strings, h⟩ key m ho hv
    obtain ⟨s, hs, -⟩ := Ordered.get?_of_traverse h hv
    rw [formatEntry, ho] at hs
    exact ⟨s, hs⟩
  · intro hsizes
    refine Ordered.exists_traverse fun key v hv => ?_
    cases ho : ConfigOption.known? key with
    | some o => exact (exists_formatEntry tolerance hw hc ho hv).imp fun _ => And.left
    | none =>
      rw [formatEntry, ho]
      exact Value.exists_text (hw key v hv) fun m hm => hsizes key m ho (hm ▸ hv)

/-- With the standard tolerance the sizes under other keys can be shown if they are within two bounds. -/
theorem sizesShown_iff (hw : c.Writable) :
    c.SizesShown .standard ↔
      ∀ key m, ConfigOption.known? key = none → c.get? key = some (.memory m) →
        -(Binary64.overflow : Int) < m.bytes ∧ m.bytes < Binary64.overflow * MemoryUnit.tera.factor := by
  have hbounds {key : String} {m : MemorySize} (hv : c.get? key = some (.memory m)) :
      (∃ s, m.text .standard = .ok s) ↔
        -(Binary64.overflow : Int) < m.bytes ∧ m.bytes < Binary64.overflow * MemoryUnit.tera.factor := by
    have hbytes := hw key _ hv
    rw [Value.isWritable] at hbytes
    exact MemorySize.exists_text_iff hbytes
  exact ⟨fun h key m ho hv => (hbounds hv).1 (h key m ho hv),
    fun h key m ho hv => (hbounds hv).2 (h key m ho hv)⟩

/-- What was written is read as a configuration with the same keys that is like the first one. -/
theorem exists_ofValues_toStrings (hw : c.Writable) (hc : c.SetFromPlain) {strings : Ordered String}
    (h : c.toStrings tolerance = .ok strings) :
    ∃ d, ofValues tolerance (SessionRecord.asValues strings) = .ok d ∧ d.keys = c.keys ∧ c.Alike d := by
  have hkeys : (SessionRecord.asValues strings).keys = c.keys := by
    rw [SessionRecord.asValues, Ordered.keys_of_map]
    exact Ordered.keys_of_traverse h
  have hget {key : String} {v : Value} (hv : c.get? key = some v) : ∃ s,
      formatEntry tolerance key v = .ok s ∧
        (SessionRecord.asValues strings).get? key = some (.str s) := by
    obtain ⟨s, hs, hstr⟩ := Ordered.get?_of_traverse h hv
    exact ⟨s, hs, by rw [SessionRecord.asValues, Ordered.get?_map, hstr]; rfl⟩
  -- under a known key the text that was written is the one that reads back
  have hread {key : String} {o : ConfigOption} (ho : ConfigOption.known? key = some o) {v : Value}
      (hv : c.get? key = some v) {u : Value} (hu : (SessionRecord.asValues strings).get? key = some u) :
      convertEntry tolerance key u = .ok v := by
    obtain ⟨s, hs, hstr⟩ := hget hv
    obtain ⟨s', hs', hconv⟩ := exists_formatEntry tolerance hw hc ho hv
    obtain rfl := Except.ok.inj (hs.symm.trans hs')
    obtain rfl := Option.some.inj (hstr.symm.trans hu)
    exact hconv
  obtain ⟨n, hn⟩ : ∃ n, (SessionRecord.asValues strings).traverse (convertEntry tolerance) = .ok n := by
    refine Ordered.exists_traverse fun key u hu => ?_
    cases ho : ConfigOption.known? key with
    | none => exact ⟨u, by rw [convertEntry, ho]⟩
    | some o =>
      obtain ⟨v, hv⟩ : ∃ v, c.get? key = some v := by
        rw [← Option.isSome_iff_exists, isSome_get?_iff, ← hkeys, ← Ordered.isSome_get?_iff, hu]
        rfl
      exact ⟨v, hread ho hv hu⟩
  obtain ⟨d, hd, hval⟩ := exists_ofValues hn
  refine ⟨d, hd, ?_, fun key o ho => ?_⟩
  · rw [keys, hval, Ordered.keys_of_traverse hn, hkeys]
  · cases hv : c.get? key with
    | none =>
      rw [Configuration.get?, hval, Ordered.get?_eq_none_iff, Ordered.keys_of_traverse hn, hkeys]
      exact Ordered.get?_eq_none_iff.1 hv
    | some v =>
      obtain ⟨s, -, hstr⟩ := hget hv
      obtain ⟨w, hw', hn'⟩ := Ordered.get?_of_traverse hn hstr
      rw [hread ho hv hstr] at hw'
      rw [Configuration.get?, hval, hn', Except.ok.inj hw']

/-- Plain values make a configuration of which known keys were set from plain values. -/
theorem setFromPlain_of_ofValues {values : Ordered Value} (h : ofValues tolerance values = .ok c)
    (hp : ∀ key v, values.get? key = some v → (ConfigOption.known? key).isSome → v.Plain) :
    c.SetFromPlain := by
  intro key o v ho hv
  have hmem := Ordered.mem_traverseEntries (Ordered.traverse_eq_ok.1 (ofValues_eq_ok_iff.1 h))
    (Ordered.get?_eq_some_iff.1 hv)
  obtain ⟨raw, hraw, hconv⟩ := hmem
  rw [convertEntry, ho] at hconv
  exact ⟨tolerance, raw, hp key raw (Ordered.get?_eq_some_iff.2 hraw) (by rw [ho]; rfl), hconv⟩

/-- A value under a key that is not known is kept as it is. -/
theorem get?_ofValues_of_unknown {values : Ordered Value} (h : ofValues tolerance values = .ok c)
    {key : String} (ho : ConfigOption.known? key = none) : c.get? key = values.get? key := by
  have htraverse := ofValues_eq_ok_iff.1 h
  cases hv : values.get? key with
  | none =>
    rw [Configuration.get?, Ordered.get?_eq_none_iff, Ordered.keys_of_traverse htraverse]
    exact Ordered.get?_eq_none_iff.1 hv
  | some v =>
    obtain ⟨w, hw, hget⟩ := Ordered.get?_of_traverse htraverse hv
    rw [convertEntry, ho] at hw
    rw [Configuration.get?, hget, ← Except.ok.inj hw]

/-- **What is written reads back.** A text that an option accepts gives a value whose own text the option
turns into the same value. A configuration whose known keys were set from plain values can be written as
texts exactly when each size under another key can be shown, which with the standard tolerance means that it
is within the bounds of floating point. Read again it has the same keys in order and the same value under each
known key, and the same shape, application and node label follow from it. -/
theorem written_and_read (tolerance : Tolerance) :
    (∀ (o : ConfigOption) (s : String) (v : Value), o.convert tolerance (.str s) = .ok v →
      v.isWritable = true → ∃ t, o.format tolerance v = .ok t ∧ o.convert tolerance (.str t) = .ok v) ∧
    ∀ c : Configuration, c.Writable → c.SetFromPlain →
      ((∃ strings, c.toStrings tolerance = .ok strings) ↔ c.SizesShown tolerance) ∧
      (c.SizesShown .standard ↔
        ∀ key m, ConfigOption.known? key = none → c.get? key = some (.memory m) →
          -(Binary64.overflow : Int) < m.bytes ∧ m.bytes < Binary64.overflow * MemoryUnit.tera.factor) ∧
      ∀ strings, c.toStrings tolerance = .ok strings →
        ∃ d, ofValues tolerance (SessionRecord.asValues strings) = .ok d ∧
          d.keys = c.keys ∧
          (∀ key o, ConfigOption.known? key = some o → d.get? key = c.get? key) ∧
          d.specification = c.specification ∧
          d.clusterId tolerance = c.clusterId tolerance ∧
          ∀ directory, (·.nodeLabel) <$> d.descriptor tolerance directory =
            (·.nodeLabel) <$> c.descriptor tolerance directory := by
  refine ⟨fun o s v h hw => ?_,
    fun c hw hc => ⟨exists_toStrings_iff hw hc, sizesShown_iff hw, fun strings h => ?_⟩⟩
  · have hs : (Value.str s).Plain := trivial
    exact ConfigOption.exists_format (ConfigOption.holds_of_convert h)
      (ConfigOption.readable_of_convert hs h) hw tolerance tolerance
  · obtain ⟨d, hd, hkeys, halike⟩ := exists_ofValues_toStrings hw hc h
    exact ⟨d, hd, hkeys, halike, halike.specification, halike.clusterId,
      fun directory => halike.nodeLabel_descriptor directory⟩

/-- A size, a duration and a list, each read from a text, and a size under a key that is not known. -/
theorem written_and_read_of_texts : ∃ c strings d,
    ofValues .standard (.ofList [("taskmanager.memory.process.size", .str "2g"),
      ("pekko.ask.timeout", .str "90 s"), ("yarn.ship-files", .str "a; b;"),
      ("x", .memory ⟨1048576⟩)]) = .ok c ∧
    c.toStrings .standard = .ok strings ∧
    ofValues .standard (SessionRecord.asValues strings) = .ok d ∧ d.keys = c.keys ∧
    d.get? "pekko.ask.timeout" = some (.duration ⟨90000000⟩) ∧
    d.specification = c.specification := by
  let entries : List (String × Value) := [("taskmanager.memory.process.size", .str "2g"),
    ("pekko.ask.timeout", .str "90 s"), ("yarn.ship-files", .str "a; b;"), ("x", .memory ⟨1048576⟩)]
  obtain ⟨c, hc⟩ : ∃ c, ofValues .standard (.ofList entries) = .ok c := ⟨_, rfl⟩
  have hplain : c.SetFromPlain := by
    refine setFromPlain_of_ofValues hc fun key v hv hkey => ?_
    have hmem : (key, v) ∈ entries := Ordered.get?_eq_some_iff.1 hv
    simp only [entries, List.mem_cons, Prod.mk.injEq, List.not_mem_nil, or_false] at hmem
    obtain ⟨rfl, rfl⟩ | ⟨rfl, rfl⟩ | ⟨rfl, rfl⟩ | ⟨rfl, rfl⟩ := hmem
    · trivial
    · trivial
    · trivial
    · exact absurd hkey (by decide)
  have hw : c.Writable := by
    rw [writable_iff, ← isOk_iff]
    cases hc
    decide +kernel
  have ⟨hiff, hbounds, hread⟩ := (written_and_read .standard).2 c hw hplain
  have hsizes : c.SizesShown .standard := by
    refine hbounds.2 fun key m hkey hv => ?_
    rw [get?_ofValues_of_unknown hc hkey] at hv
    have hmem : (key, .memory m) ∈ entries := Ordered.get?_eq_some_iff.1 hv
    obtain ⟨rfl, rfl⟩ : key = "x" ∧ m = ⟨1048576⟩ := by simpa [entries] using hmem
    decide +kernel
  obtain ⟨strings, hstrings⟩ := hiff.2 hsizes
  obtain ⟨d, hd, hkeys, hknown, hspec, -⟩ := hread strings hstrings
  refine ⟨c, strings, d, hc, hstrings, hd, hkeys, ?_, hspec⟩
  rw [hknown "pekko.ask.timeout" .askTimeout rfl]
  cases hc
  rfl

/-- A size of four hundred digits under a key that is not known has no text, and so the configuration that
holds it cannot be written. -/
theorem not_exists_toStrings_of_long_size : ∃ c,
    ofValues .standard (.single "x" (.memory ⟨Int.pow 10 400⟩)) = .ok c ∧ c.Writable ∧
    c.SetFromPlain ∧ ¬ ∃ strings, c.toStrings .standard = .ok strings := by
  let size : MemorySize := ⟨Int.pow 10 400⟩
  obtain ⟨c, hc⟩ : ∃ c, ofValues .standard (.single "x" (.memory size)) = .ok c := ⟨_, rfl⟩
  have hplain : c.SetFromPlain := by
    refine setFromPlain_of_ofValues hc fun key v hv hkey => ?_
    obtain ⟨rfl, rfl⟩ : key = "x" ∧ v = .memory size := by
      simpa [Ordered.single] using Ordered.get?_eq_some_iff.1 hv
    exact absurd hkey (by decide)
  have hw : c.Writable := by
    rw [writable_iff, ← isOk_iff]
    cases hc
    decide +kernel
  have hx : c.get? "x" = some (.memory size) := get?_ofValues_of_unknown hc rfl
  have htext : (size.text .standard).isOk = false := by decide +kernel
  refine ⟨c, hc, hw, hplain, fun hstrings => ?_⟩
  have hshown := isOk_iff.2 ((exists_toStrings_iff hw hplain).1 hstrings "x" size rfl hx)
  rw [htext] at hshown
  cases hshown

end Configuration

end

end ClusterPlan
