import ClusterPlan.Proofs.Cluster
import ClusterPlan.Settings

/-!
# Settings over defaults

Data for the settings are looked into by the names of groups and settings only, so neither other keys nor the
order of the keys make a difference to what is laid over the defaults (`Settings.Variant.overlay_eq`). A setting
that the data name has their value, every other one its default, and what stands in the place of a group without
being a mapping stays as it is. Settings that are complete come back unchanged when they are laid over the
defaults as data (`Settings.overlay_toEntries`). The main statement is `Settings.overlay_fieldwise`.
-/

namespace ClusterPlan

/-! ## Mappings by text -/

namespace Value

/-- The entries of a mapping whose keys are texts. -/
def textEntries (es : List (Value × Value)) : List (String × Value) :=
  es.filterMap fun e => e.1.str?.map (·, e.2)

/-- No two keys of a mapping are the same text. -/
def DistinctKeys (es : List (Value × Value)) : Prop :=
  ((textEntries es).map Prod.fst).Nodup

/-- Only entries whose keys are texts are found. -/
theorem entry?_eq_lookup (k : String) (es : List (Value × Value)) :
    entry? k es = Ordered.lookup k (textEntries es) := by
  induction es with
  | nil => rfl
  | cons e es ih =>
    obtain ⟨k', v⟩ := e
    cases k' with
    | str s =>
      show (if s = k then some v else entry? k es) = if s = k then some v else _
      rw [ih]
      rfl
    | _ => exact ih

theorem entry?_append (k : String) (es fs : List (Value × Value)) :
    entry? k (es ++ fs) = (Value.entry? k es).or (Value.entry? k fs) := by
  rw [entry?_eq_lookup, entry?_eq_lookup, entry?_eq_lookup, textEntries, List.filterMap_append,
    Ordered.lookup_append]
  rfl

/-- An entry in the middle is found unless its key has an entry before it. -/
theorem entry?_middle (k k' : String) (v : Value) (es fs : List (Value × Value)) :
    entry? k (es ++ (.str k', v) :: fs) = (Value.entry? k es).or (if k' = k then some v else entry? k fs) :=
  entry?_append k es ((.str k', v) :: fs)

/-- An entry under another key makes no difference. -/
theorem entry?_insert {k : String} {k' : Value} (h : k' ≠ .str k) (v : Value)
    (es fs : List (Value × Value)) : entry? k (es ++ (k', v) :: fs) = entry? k (es ++ fs) := by
  rw [entry?_append k es fs]
  cases k' with
  | str s => rw [entry?_middle, if_neg fun hs => h (congrArg _ hs)]
  | _ => exact entry?_append k es ((_, v) :: fs)

/-- The order of the entries makes no difference if their keys are distinct. -/
theorem entry?_perm (k : String) {es fs : List (Value × Value)} (hd : DistinctKeys es)
    (h : es.Perm fs) : entry? k fs = entry? k es := by
  rw [entry?_eq_lookup, entry?_eq_lookup]
  exact Ordered.lookup_perm k hd (h.filterMap _)

theorem entry?_map_str (k : String) (es : List (String × Value)) :
    entry? k (es.map fun e => (.str e.1, e.2)) = Ordered.lookup k es := by
  rw [entry?_eq_lookup, textEntries, List.filterMap_map]
  exact congrArg _ List.filterMap_some

end Value

namespace Settings

section
variable {data data' : List (Value × Value)} {g name : String} {defaults : List (String × Value)}
  {d v : Value}

/-- The names of the groups are distinct, and so are the names of the settings of each group. -/
theorem nodup_schema : (schema.map Prod.fst).Nodup ∧
    ∀ g defaults, (g, defaults) ∈ schema → (defaults.map Prod.fst).Nodup := by
  have h : schema.all fun e => (e.2.map Prod.fst).Nodup := by decide
  exact ⟨by decide, fun g defaults hg => by simpa using List.all_eq_true.1 h _ hg⟩

/-- A group has one list of defaults. -/
theorem defaults_unique {defaults' : List (String × Value)} (hg : (g, defaults) ∈ schema)
    (hg' : (g, defaults') ∈ schema) : defaults' = defaults := by
  rw [← Ordered.lookup_eq_some_iff nodup_schema.1] at hg hg'
  exact Option.some.inj (hg'.symm.trans hg)

/-- The name of the program is not the name of a group. -/
theorem ne_binaryNameKey (hg : (g, defaults) ∈ schema) : g ≠ binaryNameKey := by
  have h : schema.all fun e => e.1 ≠ binaryNameKey := by decide
  simpa using List.all_eq_true.1 h _ hg

/-! ## What is laid over the defaults -/

theorem keys_overlay (data : List (Value × Value)) :
    (overlay data).groups.map Prod.fst = schema.map Prod.fst := by
  rw [overlay, List.map_map]
  rfl

/-- Each group is laid over its own defaults. -/
theorem lookup_overlay (hg : (g, defaults) ∈ schema) :
    (overlay data).groups.lookup g = some (overlayGroup defaults (Value.entry? g data)) := by
  have hmem : (g, overlayGroup defaults (Value.entry? g data)) ∈ (overlay data).groups :=
    List.mem_map.2 ⟨_, hg, rfl⟩
  rw [Ordered.list_lookup_eq]
  exact (Ordered.lookup_eq_some_iff (keys_overlay data ▸ nodup_schema.1)).2 hmem

/-- The value of a setting that a mapping gives, or else its default. -/
def valueIn (es : List (Value × Value)) (name : String) (d : Value) : Value :=
  (Value.entry? name es).getD d

theorem overlayGroup_mapping (defaults : List (String × Value)) (es : List (Value × Value)) :
    overlayGroup defaults (some (.mapping es)) =
      .fields (defaults.map fun e => (e.1, valueIn es e.1 e.2)) := rfl

/-- A group whose settings are some values has these settings. -/
theorem get_of_fields (hg : (g, defaults) ∈ schema) {values : List (String × Value)}
    (h : overlayGroup defaults (Value.entry? g data) = .fields values)
    (hv : Ordered.lookup name values = some v) : (overlay data).get ⟨g, name⟩ = .ok v := by
  rw [← Ordered.list_lookup_eq] at hv
  simp only [get, lookup_overlay hg, h, hv]

/-- A setting of a group that is not given has its default. -/
theorem get_of_group_missing (hg : (g, defaults) ∈ schema) (hd : (name, d) ∈ defaults)
    (h : Value.entry? g data = none) : (overlay data).get ⟨g, name⟩ = .ok d :=
  get_of_fields hg (by rw [h]; rfl) ((Ordered.lookup_eq_some_iff (nodup_schema.2 _ _ hg)).2 hd)

/-- A setting of a group that is given as a mapping has the value that is there, or else its default. -/
theorem get_of_group (hg : (g, defaults) ∈ schema) (hd : (name, d) ∈ defaults)
    {es : List (Value × Value)} (h : Value.entry? g data = some (.mapping es)) :
    (overlay data).get ⟨g, name⟩ = .ok (valueIn es name d) := by
  refine get_of_fields hg (by rw [h, overlayGroup_mapping]) ?_
  rw [Ordered.lookup_map, (Ordered.lookup_eq_some_iff (nodup_schema.2 _ _ hg)).2 hd]
  rfl

/-- What is no mapping takes the place of its group. -/
theorem lookup_of_plain (hg : (g, defaults) ∈ schema) (h : Value.entry? g data = some v)
    (hv : v.kindName ≠ "dict") : (overlay data).groups.lookup g = some (.plain v) := by
  rw [lookup_overlay hg, h]
  cases v with
  | mapping es => exact absurd rfl hv
  | _ => rfl

/-! ## What makes no difference -/

/-- Groups and the name of the program are all that is asked for. -/
theorem overlay_congr
    (hgroup : ∀ g defaults, (g, defaults) ∈ schema →
      overlayGroup defaults (Value.entry? g data') = overlayGroup defaults (Value.entry? g data))
    (hname : Value.entry? binaryNameKey data' = Value.entry? binaryNameKey data) :
    overlay data' = overlay data := by
  rw [overlay, overlay, hname]
  congr 1
  exact List.map_congr_left fun e he => congrArg _ (hgroup e.1 e.2 he)

/-- A group asks for its own settings only. -/
theorem overlayGroup_congr {es fs : List (Value × Value)}
    (h : ∀ name ∈ defaults.map Prod.fst, Value.entry? name fs = Value.entry? name es) :
    overlayGroup defaults (some (.mapping fs)) = overlayGroup defaults (some (.mapping es)) := by
  rw [overlayGroup_mapping, overlayGroup_mapping]
  refine congrArg _ (List.map_congr_left fun e he => ?_)
  rw [valueIn, valueIn, h e.1 (List.mem_map_of_mem he)]

/-- Mappings that differ only in the order of their entries and in entries under other keys than the given
names. -/
inductive Reordered (names : List String) : List (Value × Value) → List (Value × Value) → Prop
  | perm {es fs : List (Value × Value)} : Value.DistinctKeys es → es.Perm fs → Reordered names es fs
  | unknown {front back : List (Value × Value)} {k v : Value} : (∀ name ∈ names, k ≠ .str name) →
      Reordered names (front ++ (k, v) :: back) (front ++ back)
  | symm {es fs : List (Value × Value)} : Reordered names es fs → Reordered names fs es
  | trans {es fs gs : List (Value × Value)} :
      Reordered names es fs → Reordered names fs gs → Reordered names es gs

/-- Under the given names there is the same. -/
theorem Reordered.entry?_eq {names : List String} {es fs : List (Value × Value)}
    (h : Reordered names es fs) (hn : name ∈ names) : Value.entry? name fs = Value.entry? name es := by
  induction h with
  | perm hd hp => exact Value.entry?_perm name hd hp
  | unknown hk => exact (Value.entry?_insert (hk name hn) ..).symm
  | symm _ ih => exact ih.symm
  | trans _ _ ih ih' => exact ih'.trans ih

/-- Data that differ only in the order of their keys and in keys that are not known, of groups or of settings
of a group. -/
inductive Variant : List (Value × Value) → List (Value × Value) → Prop
  | groups {data data' : List (Value × Value)} :
      Reordered (binaryNameKey :: schema.map Prod.fst) data data' → Variant data data'
  | settings {g : String} {defaults : List (String × Value)} {front back es fs : List (Value × Value)} :
      (g, defaults) ∈ schema → Reordered (defaults.map Prod.fst) es fs →
      Variant (front ++ (.str g, .mapping es) :: back) (front ++ (.str g, .mapping fs) :: back)
  | trans {data data' data'' : List (Value × Value)} :
      Variant data data' → Variant data' data'' → Variant data data''

/-- Such data come to the same settings. -/
theorem Variant.overlay_eq (h : Variant data data') : overlay data' = overlay data := by
  induction h with
  | groups h =>
    refine overlay_congr (fun g defaults hg => ?_) (h.entry?_eq List.mem_cons_self)
    rw [h.entry?_eq (List.mem_cons_of_mem _ (List.mem_map_of_mem hg))]
  | @settings g defaults front back es fs hg h =>
    -- only the group itself sees a difference, and it asks for its own settings only
    refine overlay_congr (fun g' defaults' hg' => ?_) ?_
    · rw [Value.entry?_middle, Value.entry?_middle]
      by_cases hsame : g = g'
      · subst hsame
        obtain rfl := defaults_unique hg hg'
        rw [if_pos rfl, if_pos rfl]
        cases Value.entry? g front with
        | some v => rfl
        | none => exact overlayGroup_congr fun name hname => h.entry?_eq hname
      · rw [if_neg hsame, if_neg hsame]
    · have hname := ne_binaryNameKey hg
      rw [Value.entry?_middle, Value.entry?_middle, if_neg hname, if_neg hname]
  | trans _ _ ih ih' => exact ih'.trans ih

/-! ## Settings as data -/

/-- All groups are there with all of their settings. -/
structure Intact (s : Settings) : Prop where
  names : s.groups.map Prod.fst = schema.map Prod.fst
  fields : ∀ g defaults, (g, defaults) ∈ schema → ∃ values,
    (g, .fields values) ∈ s.groups ∧ values.map Prod.fst = defaults.map Prod.fst

/-- Settings are complete unless the data put something else in the place of a group. -/
theorem intact_overlay (h : ∀ g defaults v, (g, defaults) ∈ schema → Value.entry? g data = some v →
    ∃ es, v = .mapping es) : (overlay data).Intact := by
  refine ⟨keys_overlay data, fun g defaults hg => ?_⟩
  have hmem {group : SettingGroup} (hgroup : overlayGroup defaults (Value.entry? g data) = group) :
      (g, group) ∈ (overlay data).groups :=
    List.mem_map.2 ⟨_, hg, congrArg _ hgroup⟩
  cases hentry : Value.entry? g data with
  | none => exact ⟨defaults, hmem (by rw [hentry]; rfl), rfl⟩
  | some v =>
    obtain ⟨es, rfl⟩ := h g defaults v hg hentry
    exact ⟨_, hmem (by rw [hentry, overlayGroup_mapping]), Ordered.keys_map (valueIn es) defaults⟩

/-- All settings of a group, laid over its defaults, are the settings. -/
theorem overlayGroup_ofEntries (hg : (g, defaults) ∈ schema) {values : List (String × Value)}
    (h : values.map Prod.fst = defaults.map Prod.fst) :
    overlayGroup defaults (some (.ofEntries values)) = .fields values := by
  let es : List (Value × Value) := values.map fun e => (.str e.1, e.2)
  have hkeys := Ordered.keys_map (valueIn es) defaults
  rw [Value.ofEntries, overlayGroup_mapping]
  refine congrArg _ (Ordered.entries_ext (hkeys ▸ nodup_schema.2 g defaults hg) (hkeys.trans h.symm) ?_)
  intro k
  rw [Ordered.lookup_map]
  cases hd : Ordered.lookup k defaults with
  | none =>
    have hnone := Ordered.lookup_eq_none_iff.1 hd
    rw [Ordered.lookup_eq_none_iff.2 (h ▸ hnone)]
    rfl
  | some d =>
    have hmem : k ∈ values.map Prod.fst := h ▸ List.mem_map_of_mem (Ordered.mem_of_lookup hd)
    cases hv : Ordered.lookup k values with
    | none => exact absurd hmem (Ordered.lookup_eq_none_iff.1 hv)
    | some v =>
      show some (valueIn es k d) = some v
      rw [valueIn, Value.entry?_map_str, hv]
      rfl

/-- What settings as data have under a key. -/
theorem entry?_toEntries (s : Settings) (k : String) : Value.entry? k s.toEntries =
    ((Ordered.lookup k s.groups).map SettingGroup.toValue).or
      (if binaryNameKey = k then some s.binaryName else none) := by
  have hentries : s.toEntries = ((s.groups.map fun e => (e.1, SettingGroup.toValue e.2)).map
      fun e => (.str e.1, e.2)) ++ [(.str binaryNameKey, s.binaryName)] := by
    rw [toEntries, List.map_map]
    rfl
  rw [hentries, Value.entry?_append, Value.entry?_map_str]
  exact congrArg₂ _ (Ordered.lookup_map (fun _ => SettingGroup.toValue) k s.groups) rfl

/-- Settings that are complete come back unchanged from what they are as data. -/
theorem overlay_toEntries {s : Settings} (h : s.Intact) : overlay s.toEntries = s := by
  have hnames := nodup_schema.1
  have hgroups : (overlay s.toEntries).groups = s.groups := by
    have hkeys := keys_overlay s.toEntries
    refine Ordered.entries_ext (hkeys ▸ hnames) (hkeys.trans h.names.symm) fun k => ?_
    by_cases hk : k ∈ schema.map Prod.fst
    · obtain ⟨⟨g, defaults⟩, hg, rfl⟩ := List.mem_map.1 hk
      obtain ⟨values, hmem, hvalues⟩ := h.fields g defaults hg
      have hlookup := (Ordered.lookup_eq_some_iff (h.names ▸ hnames)).2 hmem
      have hentry : Value.entry? g s.toEntries = some (.ofEntries values) := by
        rw [entry?_toEntries, hlookup]
        rfl
      rw [hlookup, ← Ordered.list_lookup_eq, lookup_overlay hg, hentry, overlayGroup_ofEntries hg hvalues]
    · rw [Ordered.lookup_eq_none_iff.2 (hkeys ▸ hk), Ordered.lookup_eq_none_iff.2 (h.names ▸ hk)]
  have hname : (overlay s.toEntries).binaryName = s.binaryName := by
    have hkey : binaryNameKey ∉ schema.map Prod.fst := by decide
    rw [overlay, entry?_toEntries, Ordered.lookup_eq_none_iff.2 (h.names ▸ hkey)]
    rfl
  cases s with
  | mk groups binaryName => exact congrArg₂ Settings.mk hgroups hname

/-! ## The main statement -/

/-- **Settings from data.** In settings that are laid over the defaults a setting has the value that the data
give it, or else its default, and what stands in the place of a group without being a mapping stays as it is.
Neither keys that are not known nor the order of the keys make a difference, and settings that are complete
come back unchanged from what they are as data. -/
theorem overlay_fieldwise (data : List (Value × Value)) :
    (∀ g defaults, (g, defaults) ∈ schema → ∀ name d, (name, d) ∈ defaults →
      (∀ es, Value.entry? g data = some (.mapping es) →
        (∀ v, Value.entry? name es = some v → (overlay data).get ⟨g, name⟩ = .ok v) ∧
        (Value.entry? name es = none → (overlay data).get ⟨g, name⟩ = .ok d)) ∧
      (Value.entry? g data = none → (overlay data).get ⟨g, name⟩ = .ok d)) ∧
    (∀ g defaults v, (g, defaults) ∈ schema → Value.entry? g data = some v → v.kindName ≠ "dict" →
      (overlay data).groups.lookup g = some (.plain v)) ∧
    (∀ data', Variant data data' → overlay data' = overlay data) ∧
    ∀ s : Settings, s.Intact → overlay s.toEntries = s := by
  refine ⟨fun g defaults hg name d hd => ⟨fun es h => ?_, get_of_group_missing hg hd⟩,
    fun g defaults v => lookup_of_plain, fun data' => Variant.overlay_eq, fun s => overlay_toEntries⟩
  have hget := get_of_group hg hd h
  refine ⟨fun v hv => ?_, fun hnone => ?_⟩
  · rw [hget, valueIn, hv]
    rfl
  · rw [hget, valueIn, hnone]
    rfl

/-- Data that name one of two exit codes, misspell a key of their group, and replace a group by a text. -/
def exampleData : List (Value × Value) :=
  [(.str "size", .str "big"), (.int 5, .null),
    (.str "exit_codes", .mapping [(.str "defualt", .int 1), (.str "default", .int 7)])]

/-- The settings of these data; the same data without what is not known and in another order; and the settings
of the exit codes alone, fed back. -/
theorem overlay_fieldwise_of_exitCodes :
    (overlay exampleData).get .defaultExit = .ok (.int 7) ∧
    (overlay exampleData).get .unexpectedExit = .ok (.int 99) ∧
    (overlay exampleData).get .baseConfig = .ok (.str "config.yaml") ∧
    (overlay exampleData).groups.lookup "size" = some (.plain (.str "big")) ∧
    overlay [(.str "exit_codes", .mapping [(.str "default", .int 7)]), (.str "size", .str "big")] =
      overlay exampleData ∧
    ∃ s : Settings, s.get .defaultExit = .ok (.int 7) ∧ overlay s.toEntries = s := by
  obtain ⟨hfields, hplain, hvariant, -⟩ := overlay_fieldwise exampleData
  have hcodes : ("exit_codes", [("default", Value.int 91), ("unexpected_error", .int 99)]) ∈ schema := by
    simp [schema]
  have hnames : ("file_names",
      [("properties_prefix", Value.str "yarn"), ("base_config", .str "config.yaml")]) ∈ schema := by
    simp [schema]
  have hsize : ("size", [("max_rounding_error", Value.float (.ofRatio false 1 10))]) ∈ schema := by
    simp [schema]
  have hsettings : Variant exampleData [(.str "size", .str "big"), (.int 5, .null),
      (.str "exit_codes", .mapping [(.str "default", .int 7)])] :=
    @Variant.settings _ _ [_, _] [] _ _ hcodes (@Reordered.unknown _ [] _ _ _ (by simp))
  have hunknown : Variant [(.str "size", .str "big"), (.int 5, .null),
      (.str "exit_codes", .mapping [(.str "default", .int 7)])] [(.str "size", .str "big"),
      (.str "exit_codes", .mapping [(.str "default", .int 7)])] :=
    .groups (@Reordered.unknown _ [_] _ _ _ fun _ _ => nofun)
  have horder : Variant [(.str "size", .str "big"), (.str "exit_codes", .mapping [(.str "default", .int 7)])]
      [(.str "exit_codes", .mapping [(.str "default", .int 7)]), (.str "size", .str "big")] :=
    .groups (.perm (show List.Nodup _ by decide) (.swap ..))
  obtain ⟨hfields', -, -, hback⟩ :=
    overlay_fieldwise [(.str "exit_codes", .mapping [(.str "default", .int 7)])]
  refine ⟨((hfields _ _ hcodes _ _ (.head _)).1 _ rfl).1 _ rfl,
    ((hfields _ _ hcodes _ _ (.tail _ (.head _))).1 _ rfl).2 rfl,
    (hfields _ _ hnames _ _ (.tail _ (.head _))).2 rfl, hplain _ _ _ hsize rfl (by decide),
    hvariant _ (.trans hsettings (.trans hunknown horder)),
    _, ((hfields' _ _ hcodes _ _ (.head _)).1 _ rfl).1 _ rfl, hback _ (intact_overlay ?_)⟩
  intro g defaults v _ hv
  simp only [Value.entry?] at hv
  split at hv
  · exact ⟨_, (Option.some.inj hv).symm⟩
  · cases hv

end

end Settings

end ClusterPlan
