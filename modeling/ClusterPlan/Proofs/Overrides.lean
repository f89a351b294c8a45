import ClusterPlan.Proofs.Reported

/-!
# What is reported of a command line

The overrides of a command line are applied one after the other and the finished overlay is traced. With the
single options (`ClusterPlan.Proofs.Reported`) this gives the statement on the whole,
`Overlay.ofOptions_reported`: there is an overlay, or a failure about an option, or a number that is at a
limit, for which some text goes beyond it (`Overlay.WithinLimits`). For an override that its option cannot
convert it says which failure it is.
-/

namespace ClusterPlan.Overlay

variable {tolerance : Tolerance} {options : Options} {p : Prop}

/-! ## Overrides -/

/-- An override is within the limits that applying and tracing it come upon. -/
structure OverrideWithinLimits (tolerance : Tolerance) (key value : String) : Prop where
  id : key = ConfigOption.applicationId.key → Text.ShortRuns value.toList
  option : ∀ o, ConfigOption.known? key = some o → o.WithinLimits value
  written : ∀ v, Configuration.convertEntry tolerance key (.str value) = .ok v → v.isWritable = true

/-- Why an override is rejected. -/
theorem rejected_of_putOverride {c : Configuration} {key value : String} {f : Failure}
    (h : putOverride tolerance c key value = .error f) :
    f.family = .memory ∨ f.family = .general ∨
      f.isLimit = true ∧ ¬ OverrideWithinLimits tolerance key value := by
  rcases bind_eq_error.1 h with h | ⟨d, -, h⟩
  · rw [Configuration.set_eq_error_iff, Configuration.convertEntry] at h
    split at h
    · next o ho =>
      rcases ConfigOption.rejected h with ⟨-, hf⟩ | ⟨-, hf⟩ | ⟨hf, hlimits⟩
      · exact .inl hf
      · exact .inr (.inl hf)
      · exact .inr (.inr ⟨hf, fun hw => hlimits (hw.option o ho)⟩)
    · cases h
  · split at h
    · next hkey =>
      rcases bind_eq_error.1 h with h | ⟨_, -, h⟩
      · have hid : ApplicationId.parse value = .error f := by
          cases hid : ApplicationId.parse value with
          | error g => rw [hid] at h; cases h; rfl
          | ok id => rw [hid] at h; cases h
        exact .inr ((ApplicationId.rejected hid).imp_right fun h => ⟨h.1, fun hw => h.2 (hw.id hkey)⟩)
      · cases h
    · cases h

/-- An override puts its value, and a rejected value is reported under the option for overrides. -/
theorem applyOverride_of_assignment {c : Configuration} {item key value : String}
    (h : Text.assignment? item = some (key, value)) :
    applyOverride tolerance c item = match putOverride tolerance c key value with
      | .ok d => .ok d
      | .error f => .error (f.reportedAs .dynamic) := by
  rw [applyOverride, h]
  rfl

/-- A single override sets an entry or is reported. -/
theorem reported_applyOverride {c : Configuration} {item : String}
    (hp : p → ∀ key value, Text.assignment? item = some (key, value) →
      OverrideWithinLimits tolerance key value) : Reported p (applyOverride tolerance c item) := by
  have ho : CommandOption.dynamic ∈ CommandOption.all := by simp [CommandOption.all]
  cases hitem : Text.assignment? item with
  | none =>
    rw [applyOverride, hitem]
    exact .of_option ho rfl
  | some e =>
    obtain ⟨key, value⟩ := e
    rw [applyOverride_of_assignment hitem]
    cases hput : putOverride tolerance c key value with
    | ok d => exact .ok d
    | error f =>
      refine .reportedAs ho ((rejected_of_putOverride hput).imp_right fun h => h.imp_right fun h => ?_)
      exact ⟨h.1, fun hprem => h.2 (hp hprem key value hitem)⟩

/-- So are overrides one after the other, by induction on their number. -/
theorem reported_applyOverrides {items : List String} (c : Configuration)
    (hp : p → ∀ item ∈ items, ∀ key value, Text.assignment? item = some (key, value) →
      OverrideWithinLimits tolerance key value) :
    Reported p (items.foldlM (applyOverride tolerance) c) := by
  induction items generalizing c with
  | nil => exact .ok c
  | cons item items ih =>
    rw [List.foldlM_cons]
    exact (reported_applyOverride fun h => hp h item List.mem_cons_self).bind fun d _ =>
      ih d fun h item hm => hp h item (List.mem_cons_of_mem _ hm)

/-- What an option or an unknown key makes of a text is readable. -/
theorem readable_of_convertEntry {key value : String} {v : Value}
    (h : Configuration.convertEntry tolerance key (.str value) = .ok v) : v.Readable := by
  unfold Configuration.convertEntry at h
  split at h
  · exact ConfigOption.readable_of_convert (v := .str value) trivial h
  · cases h; trivial

/-! ## Traces -/

/-- The value is one that was read from a text, and one that can be written under the condition `p`. -/
def Traceable (p : Prop) (v : Value) : Prop :=
  v.Readable ∧ (p → v.isWritable = true)

/-- What is true of all numbers of an overlay is true of those that its options gave. -/
theorem forall_numbers_iff {Q : Value → Prop} {o : Overlay} : (∀ v ∈ o.numbers, Q v) ↔
    (∀ m, o.masterMemory = some m → Q (.memory m)) ∧
    (∀ m, o.workerMemory = some m → Q (.memory m)) ∧ ∀ i, o.slots = some i → Q (.int i) := by
  constructor
  · intro h
    refine ⟨fun m hm => h _ ?_, fun m hm => h _ ?_, fun i hi => h _ ?_⟩
    · exact List.mem_filterMap.2 ⟨_, List.mem_cons_self, by rw [hm]; rfl⟩
    · exact List.mem_filterMap.2 ⟨_, List.mem_cons_of_mem _ List.mem_cons_self, by rw [hm]; rfl⟩
    · exact List.mem_filterMap.2 ⟨_, List.mem_cons_of_mem _ (List.mem_cons_of_mem _ List.mem_cons_self),
        by rw [hi]; rfl⟩
  · rintro ⟨hmaster, hworker, hslots⟩ v hv
    obtain ⟨x, hx, hv⟩ := List.mem_filterMap.1 hv
    simp only [List.mem_cons, List.not_mem_nil, or_false] at hx
    rcases hx with rfl | rfl | rfl
    · obtain ⟨m, hm, rfl⟩ := Option.map_eq_some_iff.1 hv
      exact hmaster m hm
    · obtain ⟨m, hm, rfl⟩ := Option.map_eq_some_iff.1 hv
      exact hworker m hm
    · obtain ⟨i, hi, rfl⟩ := Option.map_eq_some_iff.1 hv
      exact hslots i hi

/-- An overlay of readable values that cannot be traced has a number that is too long. -/
theorem eq_numberTooLong_of_trace {o : Overlay} (hn : ∀ v ∈ o.numbers, v.Readable)
    (hd : ∀ key v, o.dynamic.get? key = some v → v.Readable) {f : Failure}
    (h : o.trace = .error f) : f = .numberTooLong := by
  have of_discard {x : Except Failure String} (hx : discard x = .error f) : x = .error f := by
    cases x with
    | error g => cases hx; rfl
    | ok s => cases hx
  rcases bind_eq_error.1 h with h | ⟨_, -, h⟩
  · generalize o.numbers = vs at hn h
    induction vs with
    | nil => cases h
    | cons v vs ih =>
      rw [List.forM_eq_forM, List.forM_cons] at h
      rcases bind_eq_error.1 h with h | ⟨_, -, h⟩
      · exact (hn v List.mem_cons_self).eq_numberTooLong (of_discard h)
      · exact ih (fun w hw => hn w (List.mem_cons_of_mem _ hw)) h
  · obtain ⟨key, v, hv, hf⟩ := Configuration.exists_of_quoted_eq_error (of_discard h)
    exact (hd key v hv).eq_numberTooLong hf

/-- Tracing an overlay fails only for numbers beyond the limit. -/
theorem reported_trace {o : Overlay} (hn : ∀ v ∈ o.numbers, Traceable p v)
    (hd : ∀ key v, o.dynamic.get? key = some v → Traceable p v) : Reported p o.trace := by
  intro f hf
  have hlong := eq_numberTooLong_of_trace (fun v hv => (hn v hv).1) (fun key v hv => (hd key v hv).1) hf
  refine .inr ⟨by rw [hlong]; rfl, fun hp => ?_⟩
  have hok : o.trace = .ok () :=
    trace_eq_ok_iff.2 ⟨fun v hv => (hn v hv).2 hp, fun key v hv => (hd key v hv).2 hp⟩
  rw [hok] at hf
  cases hf

/-- A memory size that was read can be traced if the size that its text denotes can be written. -/
theorem traceable_of_readMemory {o : CommandOption} {m : MemorySize}
    (h : readMemory tolerance options o = .ok (some m))
    (hp : p → ∀ s, given? options o = some (.str s) →
      ∀ m, MemorySize.parse (Text.strip s) = .ok m → Text.isWritable m.bytes = true) :
    Traceable p (.memory m) := by
  obtain ⟨raw, hraw, hparse⟩ := parse_of_readMemory h
  exact ⟨MemorySize.pos_of_parse hparse, fun hprem => hp hprem raw hraw m hparse⟩

/-! ## Command lines -/

/-- The texts that a command line gives are within the limits that reading them comes upon. -/
structure WithinLimits (tolerance : Tolerance) (options : Options) : Prop where
  clusterId : ∀ s, given? options .applicationId = some (.str s) → Text.ShortRuns s.toList
  memory : ∀ o ∈ [CommandOption.masterMemory, CommandOption.workerMemory], ∀ s,
    given? options o = some (.str s) → Text.ShortRuns s.toList ∧
      ∀ m, MemorySize.parse (Text.strip s) = .ok m → Text.isWritable m.bytes = true
  overrides : ∀ items, readList tolerance options .dynamic = .ok items → ∀ item ∈ items,
    ∀ key value, Text.assignment? item = some (key, value) → OverrideWithinLimits tolerance key value

/-- All options besides the overrides are accepted. -/
structure OthersAccepted (tolerance : Tolerance) (options : Options) : Prop where
  clusterId : ∃ x, readClusterId tolerance options = .ok x
  masterMemory : ∃ x, readMemory tolerance options .masterMemory = .ok x
  workerMemory : ∃ x, readMemory tolerance options .workerMemory = .ok x
  slots : ∃ x, readSlots tolerance options = .ok x
  namespaceId : ∃ x, readText tolerance options .namespaceId = .ok x
  nodeLabel : ∃ x, readText tolerance options .nodeLabel = .ok x
  shipFiles : ∃ x, readList tolerance options .ship = .ok x

/-- Options are accepted or reported. -/
theorem reported_ofOptions (mode : Mode) (h : Entered options) :
    Reported (WithinLimits tolerance options) (ofOptions tolerance mode options) := by
  refine (reported_readClusterId h fun hw => hw.clusterId).bind fun clusterId _ => ?_
  refine (reported_readMemory h (by simp [CommandOption.all])
    fun hw s hs => (hw.memory _ (by simp) s hs).1).bind fun masterMemory hmaster => ?_
  refine (reported_readMemory h (by simp [CommandOption.all])
    fun hw s hs => (hw.memory _ (by simp) s hs).1).bind fun workerMemory hworker => ?_
  refine (reported_readSlots h).bind fun slots hslots => ?_
  refine (reported_readText h (by simp [CommandOption.all])).bind fun namespaceId _ => ?_
  refine (reported_readText h (by simp [CommandOption.all])).bind fun nodeLabel _ => ?_
  refine (reported_readList h (by simp [CommandOption.all])).bind fun shipFiles _ => ?_
  refine (reported_readList h (by simp [CommandOption.all])).bind fun items hitems => ?_
  refine (reported_applyOverrides .empty fun hw => hw.overrides items hitems).bind
    fun dynamic hdynamic => ?_
  refine (reported_trace (forall_numbers_iff.2 ⟨fun m hm => ?_, fun m hm => ?_, fun i hi => ?_⟩) ?_).bind
    fun _ _ => .ok _
  · cases hm
    exact traceable_of_readMemory hmaster fun hw s hs => (hw.memory _ (by simp) s hs).2
  · cases hm
    exact traceable_of_readMemory hworker fun hw s hs => (hw.memory _ (by simp) s hs).2
  · cases hi
    exact ⟨trivial, fun _ => isWritable_of_readSlots hslots⟩
  · intro key v hv
    obtain ⟨item, hitem, value, hassign, hconv, -⟩ := exists_sets_of_applyOverrides hdynamic hv
    exact ⟨readable_of_convertEntry hconv,
      fun hw => (hw.overrides items hitems item hitem key value hassign).written v hconv⟩

/-- The failure of an override that its option cannot convert, when everything before it is accepted. -/
theorem ofOptions_of_override {mode : Mode} (h : OthersAccepted tolerance options)
    (before after : List String) {item key value : String}
    (hitems : readList tolerance options .dynamic = .ok (before ++ item :: after))
    {c : Configuration} (hbefore : applyOverrides tolerance before = .ok c)
    (hitem : Text.assignment? item = some (key, value)) {cause : Failure}
    (hcause : Configuration.convertEntry tolerance key (.str value) = .error cause) :
    ofOptions tolerance mode options = .error (cause.reportedAs .dynamic) := by
  obtain ⟨clusterId, hclusterId⟩ := h.clusterId
  obtain ⟨masterMemory, hmaster⟩ := h.masterMemory
  obtain ⟨workerMemory, hworker⟩ := h.workerMemory
  obtain ⟨slots, hslots⟩ := h.slots
  obtain ⟨namespaceId, hnamespace⟩ := h.namespaceId
  obtain ⟨nodeLabel, hlabel⟩ := h.nodeLabel
  obtain ⟨shipFiles, hship⟩ := h.shipFiles
  have hput : putOverride tolerance c key value = .error cause :=
    bind_eq_error.2 (.inl (Configuration.set_eq_error_iff.2 hcause))
  have happly : applyOverrides tolerance (before ++ item :: after) = .error (cause.reportedAs .dynamic) := by
    rw [applyOverrides, List.foldlM_append, bind_eq_error]
    refine .inr ⟨c, hbefore, ?_⟩
    rw [List.foldlM_cons, bind_eq_error]
    exact .inl (by rw [applyOverride_of_assignment hitem, hput])
  rw [ofOptions, hclusterId, hmaster, hworker, hslots, hnamespace, hlabel, hship, hitems]
  show (applyOverrides tolerance (before ++ item :: after) >>= _) = _
  rw [happly]
  rfl

/-- **What a command line fails with.** Whatever values its options have, there is an overlay, or a failure
that is one of memory or names an option, or a text goes beyond one of the limits of numbers. An override that
its option cannot convert, when all else up to it is accepted, is a failure of memory for an option that is
a memory size, and else a failure that names the flag of the overrides, below the limits that is. -/
theorem ofOptions_reported (tolerance : Tolerance) (mode : Mode) {options : Options}
    (h : Entered options) :
    ((∃ o, ofOptions tolerance mode options = .ok o) ∨
      ∃ f, ofOptions tolerance mode options = .error f ∧
        (f.AboutOption ∨ f.isLimit = true ∧ ¬ WithinLimits tolerance options)) ∧
    (OthersAccepted tolerance options → ∀ before item after c key value o cause,
      readList tolerance options .dynamic = .ok (before ++ item :: after) →
      applyOverrides tolerance before = .ok c →
      Text.assignment? item = some (key, value) →
      ConfigOption.known? key = some o → o.convert tolerance (.str value) = .error cause →
      ∃ f, ofOptions tolerance mode options = .error f ∧
        ((o.type = .memory ∧ f.family = .memory) ∨
          (o.type ≠ .memory ∧ f = .rejectedOption CommandOption.dynamic.flag cause) ∨
          (f.isLimit = true ∧ ¬ o.WithinLimits value))) := by
  refine ⟨?_, fun hothers before item after c key value o cause hitems hbefore hitem ho hcause => ?_⟩
  · cases hrun : ofOptions tolerance mode options with
    | ok overlay => exact .inl ⟨overlay, rfl⟩
    | error f => exact .inr ⟨f, rfl, reported_ofOptions mode h f hrun⟩
  · have hentry : Configuration.convertEntry tolerance key (.str value) = .error cause := by
      rw [Configuration.convertEntry, ho]
      exact hcause
    refine ⟨_, ofOptions_of_override hothers before after hitems hbefore hitem hentry, ?_⟩
    rcases ConfigOption.rejected hcause with ⟨htype, hf⟩ | ⟨htype, hf⟩ | ⟨hf, hlimits⟩
    · exact .inl ⟨htype, by rw [Failure.reportedAs_of_memory _ hf]; exact hf⟩
    · exact .inr (.inl ⟨htype, Failure.reportedAs_of_general _ hf⟩)
    · exact .inr (.inr ⟨by rw [Failure.reportedAs_of_isLimit _ hf]; exact hf, hlimits⟩)

/-- A command line that gives overrides only. -/
def onlyOverrides (items : List String) : Options :=
  .single CommandOption.dynamic.name (.list (items.map .str))

/-- Overrides alone can be entered. -/
theorem entered_onlyOverrides (items : List String) : Entered (onlyOverrides items) := by
  intro name v hv
  rw [onlyOverrides, Ordered.single, Ordered.get?, Ordered.lookup] at hv
  split at hv
  · cases hv; exact .list items
  · cases hv

/-- Then nothing is wrong with the other options. -/
theorem othersAccepted_onlyOverrides (items : List String) :
    OthersAccepted tolerance (onlyOverrides items) :=
  ⟨⟨_, rfl⟩, ⟨_, rfl⟩, ⟨_, rfl⟩, ⟨_, rfl⟩, ⟨_, rfl⟩, ⟨_, rfl⟩, ⟨_, rfl⟩⟩

/-- The overrides that were entered are the ones that are read. -/
theorem readList_onlyOverrides (items : List String) :
    readList tolerance (onlyOverrides items) .dynamic = .ok items := by
  show ConfigOption.texts tolerance (items.map .str) = .ok items
  rw [ConfigOption.texts, ConfigOption.mapM_map_str fun _ => rfl]

/-- The second of two overrides is no truth value. -/
theorem reported_of_override :
    ofOptions .standard .run (onlyOverrides ["a=1", "execution.attached=maybe"]) =
      .error (.rejectedOption "-D" (.notBoolean "execution.attached" "maybe")) := by
  have hcause : ConfigOption.attached.convert .standard (.str "maybe") =
      .error (.notBoolean "execution.attached" "maybe") := by
    have hread : ConfigOption.readBool? "maybe" = none := by decide +kernel
    simp only [ConfigOption.convert, ConfigOption.attached, Value.text, bind, Except.bind, hread]
  obtain ⟨c, hc⟩ : ∃ c, applyOverrides .standard ["a=1"] = .ok c := ⟨_, rfl⟩
  obtain ⟨f, hf, h⟩ := (ofOptions_reported .standard .run (entered_onlyOverrides _)).2
    (othersAccepted_onlyOverrides _) ["a=1"] "execution.attached=maybe" [] c "execution.attached" "maybe"
    .attached _ (readList_onlyOverrides _) hc (by decide +kernel) rfl hcause
  rcases h with ⟨htype, -⟩ | ⟨-, rfl⟩ | ⟨-, hlimits⟩
  · cases htype
  · exact hf
  · exact absurd trivial hlimits

/-- A duration of a billion days is in the grammar of durations, but there is none that long. -/
theorem not_aboutOption_of_duration : ∃ f,
    ofOptions .standard .run (onlyOverrides ["pekko.ask.timeout=1000000000d"]) = .error f ∧
      ¬ f.AboutOption := by
  have hparse : Duration.parse "1000000000d" = .error (.durationDays 1000000000) := by decide +kernel
  have hcause : Configuration.convertEntry .standard "pekko.ask.timeout" (.str "1000000000d") =
      .error (.durationDays 1000000000) := by
    have hknown : ConfigOption.known? "pekko.ask.timeout" = some .askTimeout := rfl
    simp only [Configuration.convertEntry, hknown, ConfigOption.convert, ConfigOption.askTimeout,
      Value.text, bind, Except.bind, hparse]
  refine ⟨.durationDays 1000000000, ?_, Failure.not_aboutOption_of_isLimit rfl⟩
  exact ofOptions_of_override (othersAccepted_onlyOverrides _) [] [] (readList_onlyOverrides _) rfl
    (by decide +kernel) hcause

end ClusterPlan.Overlay
