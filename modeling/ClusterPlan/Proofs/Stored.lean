import ClusterPlan.Proofs.Cluster
import ClusterPlan.Proofs.Overlay
import ClusterPlan.Proofs.Session
import ClusterPlan.Resolution

/-!
# What a configuration stores

`Configuration.Built` is the configurations that come out of a history of operations on any values. Each
of them is in the end the conversion of some values (`Configuration.Built.converted`), and so under
a known key it holds a value of the type of the option, which further conversions leave as it is. The
operations that look at stored values rely on their types: a value of another type is the failure
`mistyped`, and `NotMistyped` says of a computation that it does not come to it. The main statement is
`Configuration.Built.stored`.
-/

namespace ClusterPlan

section
variable {tolerance : Tolerance}

/-! ## Computations that find the types they expect -/

/-- The computation does not fail because a stored value is of another type than its option. -/
def NotMistyped {α : Type} (x : Except Failure α) : Prop :=
  ∀ key, x ≠ .error (.mistyped key)

namespace NotMistyped

variable {α β : Type}

/-- A value that is there needed no type. -/
theorem ok (a : α) : NotMistyped (.ok a : Except Failure α) := fun _ => nofun

/-- A sequence of two computations finds the types it expects if both do. -/
theorem bind {x : Except Failure α} {f : α → Except Failure β} (hx : NotMistyped x)
    (hf : ∀ a, NotMistyped (f a)) : NotMistyped (x >>= f) := by
  cases x with
  | error e => exact fun key h => hx key (by cases h; rfl)
  | ok a => exact hf a

/-- Not to look at the value of a computation changes nothing. -/
theorem discard {x : Except Failure α} (hx : NotMistyped x) : NotMistyped (discard x) := by
  cases x with
  | error e => exact fun key h => hx key (by cases h; rfl)
  | ok a => exact ok ()

/-- Writing a number may fail for its length only. -/
theorem writeInt (i : Int) : NotMistyped (writeInt i) := by
  unfold ClusterPlan.writeInt
  split
  · exact ok _
  · exact fun _ => nofun

/-- So may writing it with zeros in front. -/
theorem writePadded (width : Nat) (i : Int) : NotMistyped (writePadded width i) := by
  unfold ClusterPlan.writePadded
  split
  · exact ok _
  · exact fun _ => nofun

/-- So may reading it. -/
theorem readDigits (ds : List Char) : NotMistyped (readDigits ds) := by
  unfold ClusterPlan.readDigits
  split
  · exact ok _
  · exact fun _ => nofun

end NotMistyped

namespace ApplicationId

/-- Reading an application ID fails for its form or for the length of its numbers. -/
theorem notMistyped_parse (s : String) : NotMistyped (parse s) := by
  unfold parse
  split
  · exact fun _ => nofun
  · exact .bind (.readDigits _) fun _ => .bind (.readDigits _) fun _ => .ok _

/-- Writing one fails for the length of its numbers. -/
theorem notMistyped_text (a : ApplicationId) : NotMistyped a.text :=
  .bind (.writeInt _) fun _ => .bind (.writePadded _ _) fun _ => .ok _

end ApplicationId

namespace ConfigOption

/-- An option can look at a value of its own type when it writes it. -/
theorem notMistyped_format {o : ConfigOption} {v : Value} (h : o.type.holds v = true) :
    NotMistyped (o.format tolerance v) := by
  obtain ⟨key, type, default, description⟩ := o
  cases type with
  | string => cases v with
    | str s => exact .ok s
    | _ => cases h
  | integer => cases v with
    | int i => exact .writeInt i
    | _ => cases h
  | boolean => exact .ok _
  | memory => cases v with
    | memory m =>
      show NotMistyped (formatMemory m)
      unfold formatMemory
      split
      · exact .bind (.writeInt _) fun _ => .ok _
      · exact .bind (.writeInt _) fun _ => .ok _
    | _ => cases h
  | duration => cases v with
    | duration d => exact .ok _
    | _ => cases h
  | list => cases v with
    | list items =>
      obtain ⟨ss, rfl⟩ := exists_map_str h
      show NotMistyped (do return (String.singleton listSeparator).intercalate (← List.mapM _ _))
      rw [mapM_map_str fun _ => rfl]
      exact .ok _
    | _ => cases h

end ConfigOption

/-! ## Derivations -/

namespace Configuration

/-- The shape of a cluster is made of two sizes and a number, which are there and of their types. -/
theorem notMistyped_specification (c : Configuration) : NotMistyped c.specification := by
  obtain ⟨master, hm⟩ := exists_memory c (o := .masterMemory) (by simp [ConfigOption.registry]) rfl rfl
  obtain ⟨worker, hw⟩ := exists_memory c (o := .workerMemory) (by simp [ConfigOption.registry]) rfl rfl
  obtain ⟨v, hv⟩ := exists_value? c (o := .slots) rfl
  have h := holds_of_value? (by simp [ConfigOption.registry]) hv
  cases v with
  | int slots =>
    rw [specification, hm, hw]
    refine .bind (.ok _) fun _ => .bind (.ok _) fun _ => ?_
    rw [hv]
    exact .bind (.discard (.writeInt _)) fun _ => .bind (.discard (.writeInt _)) fun _ =>
      .bind (.discard (.writeInt _)) fun _ => .ok _
  | _ => cases h

/-- The application to attach to is read from a text. -/
theorem notMistyped_clusterId (c : Configuration) : NotMistyped (c.clusterId tolerance) := by
  rw [clusterId_eq]
  cases c.text? ConfigOption.applicationId.key with
  | none => exact .ok _
  | some s =>
    show NotMistyped (some <$> ApplicationId.parse s)
    rw [map_eq_pure_bind]
    exact .bind (ApplicationId.notMistyped_parse s) fun _ => .ok _

/-- The namespace is set to a text. -/
theorem notMistyped_withNamespace (c : Configuration) : NotMistyped (c.withNamespace tolerance) := by
  refine .bind (notMistyped_clusterId c) fun id => ?_
  cases id with
  | none => exact .ok c
  | some id =>
    show NotMistyped (if c.contains .namespaceId then _ else _)
    split
    · exact .ok c
    · refine .bind (ApplicationId.notMistyped_text id) fun s => ?_
      have hs : convertEntry tolerance ConfigOption.namespaceId.key (.str s) = .ok (.str s) :=
        convertEntry_of_holds (by simp [ConfigOption.registry]) rfl
      obtain ⟨d, hd, -⟩ := exists_set c hs
      rw [hd]
      exact .ok d

/-- The descriptor relies on nothing else. -/
theorem notMistyped_descriptor (directory : Path) (c : Configuration) :
    NotMistyped (c.descriptor tolerance directory) := by
  rw [descriptor_eq]
  exact .bind (notMistyped_withNamespace c) fun _ => .ok _

/-! ## Histories -/

/-- The configurations that come out of a history of operations, whatever values go into it. -/
inductive Built : Configuration → Prop
  | ofValues {tolerance : Tolerance} {values : Ordered Value} {c : Configuration} :
      ofValues tolerance values = .ok c → Built c
  | ofTree {tolerance : Tolerance} {tree : List (Value × Value)} {c : Configuration} :
      ofTree tolerance tree = .ok c → Built c
  | set {tolerance : Tolerance} {c d : Configuration} {key : String} {v : Value} :
      Built c → c.set tolerance key v = .ok d → Built d
  | merge {tolerance : Tolerance} {c d : Configuration} {other : Ordered Value} :
      Built c → c.merge tolerance other = .ok d → Built d
  | ofSession {tolerance : Tolerance} {r : SessionRecord} {c : Configuration} :
      r.toConfiguration tolerance = .ok c → Built c
  | ofOverlay {tolerance : Tolerance} {o : Overlay} {c : Configuration} :
      Built o.dynamic → o.toConfiguration tolerance = .ok c → Built c
  | resolve {tolerance : Tolerance} {base c : Configuration} {session : Option SessionRecord}
      {o : Overlay} : Built base → Built o.dynamic →
      resolve tolerance base session o = .ok c → Built c
  | descriptor {tolerance : Tolerance} {directory : Path} {c : Configuration}
      {d : ClusterDescriptor} : Built c → c.descriptor tolerance directory = .ok d →
      Built d.configuration

/-- The configuration is the conversion of some values. -/
def Converted (c : Configuration) : Prop :=
  ∃ tolerance values, Configuration.ofValues tolerance values = .ok c

/-- A set ends in a conversion. -/
theorem Converted.of_set {c d : Configuration} {key : String} {v : Value}
    (h : c.set tolerance key v = .ok d) : Converted d :=
  ⟨tolerance, _, h⟩

/-- So does a merge. -/
theorem Converted.of_merge {c d : Configuration} {other : Ordered Value}
    (h : c.merge tolerance other = .ok d) : Converted d :=
  have ⟨_, _, hd⟩ := bind_eq_ok.1 h
  ⟨tolerance, _, hd⟩

/-- Setting some options comes to a conversion of some values. -/
theorem Converted.of_apply {cs : Choices} {c d : Configuration} (hc : Converted c)
    (h : cs.apply tolerance c = .ok d) : Converted d := by
  induction cs generalizing c with
  | nil => exact Except.ok.inj h ▸ hc
  | cons choice cs ih =>
    obtain ⟨o, v⟩ := choice
    rw [Choices.apply, List.foldlM_cons] at h
    obtain ⟨c', hc', hd⟩ := bind_eq_ok.1 h
    cases v with
    | none =>
      obtain rfl : c = c' := Except.ok.inj hc'
      exact ih hc hd
    | some v => exact ih (.of_set hc') hd

/-- A session record sets options on top of its converted dynamic properties. -/
theorem Converted.of_session {r : SessionRecord} {c : Configuration}
    (h : r.toConfiguration tolerance = .ok c) : Converted c := by
  rw [SessionRecord.toConfiguration_eq] at h
  obtain ⟨d, hd, h⟩ := bind_eq_ok.1 h
  obtain ⟨id, -, h⟩ := bind_eq_ok.1 h
  exact .of_apply ⟨tolerance, _, hd⟩ h

/-- An overlay sets options on top of nothing. -/
theorem Converted.of_overlay {o : Overlay} {c : Configuration}
    (h : o.toConfiguration tolerance = .ok c) : Converted c := by
  rw [Overlay.toConfiguration_eq] at h
  exact .of_apply ⟨tolerance, _, ofValues_values empty⟩ h

/-- A resolution ends in a merge or in the target that is set after it. -/
theorem Converted.of_resolve {base c : Configuration} {session : Option SessionRecord} {o : Overlay}
    (h : ClusterPlan.resolve tolerance base session o = .ok c) : Converted c := by
  obtain ⟨c₁, -, h⟩ := bind_eq_ok.1 h
  obtain ⟨T, -, h⟩ := bind_eq_ok.1 h
  obtain ⟨c₂, -, h⟩ := bind_eq_ok.1 h
  obtain ⟨c₃, h₃, h⟩ := bind_eq_ok.1 h
  obtain ⟨c₄, h₄, h⟩ := bind_eq_ok.1 h
  obtain ⟨-, -, h⟩ := bind_eq_ok.1 h
  obtain rfl := Except.ok.inj h
  unfold withTarget at h₄
  split at h₄
  · exact Except.ok.inj h₄ ▸ .of_merge h₃
  · exact .of_set h₄

/-- A descriptor sets the namespace or leaves the configuration as it is. -/
theorem Converted.withNamespace {c d : Configuration} (hc : Converted c)
    (h : c.withNamespace tolerance = .ok d) : Converted d := by
  cases withNamespace_eq_ok_iff.1 h with
  | kept => exact hc
  | @added _ name _ _ hset _ hd =>
    have hnamespace : c.set tolerance ConfigOption.namespaceId.key (.str name) = .ok d :=
      (set_namespace_eq_ok_iff hset).2 hd
    exact .of_set hnamespace

/-- What comes out of a history is the conversion of some values. -/
theorem Built.converted {c : Configuration} (h : Built c) : Converted c := by
  induction h with
  | ofValues h => exact ⟨_, _, h⟩
  | ofTree h =>
    obtain ⟨values, -, h⟩ := bind_eq_ok.1 h
    exact ⟨_, values, h⟩
  | set _ h => exact .of_set h
  | merge _ h => exact .of_merge h
  | ofSession h => exact .of_session h
  | ofOverlay _ h => exact .of_overlay h
  | resolve _ _ h => exact .of_resolve h
  | descriptor _ h ih =>
    rw [descriptor_eq] at h
    obtain ⟨d, hd, h⟩ := bind_eq_ok.1 h
    cases h
    exact ih.withNamespace hd

/-- Under a known key a conversion has a value of the type of the option. -/
theorem Converted.holds {c : Configuration} (h : Converted c) {o : ConfigOption} {key : String}
    (ho : ConfigOption.known? key = some o) {v : Value} (hv : c.get? key = some v) :
    o.type.holds v = true := by
  obtain ⟨tolerance, values, h⟩ := h
  have hmem := Ordered.mem_traverseEntries (Ordered.traverse_eq_ok.1 (ofValues_eq_ok_iff.1 h))
    (Ordered.get?_eq_some_iff.1 hv)
  obtain ⟨raw, -, hraw⟩ := hmem
  rw [convertEntry, ho] at hraw
  exact ConfigOption.holds_of_convert hraw

/-- **Stored values stay what they are.** Whatever history a configuration comes from, under a known key
it has a value of the type of the option; converting that value again gives the same value, so building
the configuration anew gives the same one; and nothing that looks at stored values finds one of another
type. -/
theorem Built.stored {c : Configuration} (h : Built c) (tolerance : Tolerance) :
    (∀ key o v, ConfigOption.known? key = some o → c.get? key = some v →
      o.type.holds v = true ∧ o.convert tolerance v = .ok v ∧ NotMistyped (o.format tolerance v)) ∧
    Configuration.ofValues tolerance c.values = .ok c ∧
    NotMistyped c.specification ∧
    ∀ directory, NotMistyped (c.descriptor tolerance directory) := by
  refine ⟨fun key o v ho hv => ?_, ofValues_values c, notMistyped_specification c,
    fun directory => notMistyped_descriptor directory c⟩
  have hold := h.converted.holds ho hv
  exact ⟨hold, ConfigOption.convert_of_holds hold, ConfigOption.notMistyped_format hold⟩

/-- Slots and ship files that come in as texts, one in the first values and one in a set. -/
theorem stored_of_texts : ∃ c, Built c ∧ c.get? "taskmanager.numberOfTaskSlots" = some (.int 4) ∧
    c.get? "yarn.ship-files" = some (.list [.str "a", .str "b"]) ∧
    Configuration.ofValues .standard c.values = .ok c ∧ NotMistyped c.specification := by
  obtain ⟨c, hc⟩ : ∃ c, Configuration.ofValues .standard
      (.single "taskmanager.numberOfTaskSlots" (.str " 4 ")) = .ok c := ⟨_, rfl⟩
  obtain ⟨d, hd⟩ : ∃ d, c.set .standard "yarn.ship-files" (.str "a; b;") = .ok d := by
    cases hc; exact ⟨_, rfl⟩
  have h : Built d := .set (.ofValues hc) hd
  refine ⟨d, h, ?_, ?_, (h.stored .standard).2.1, (h.stored .standard).2.2.1⟩
  · cases hc; cases hd; rfl
  · cases hc; cases hd; rfl

end Configuration

end

end ClusterPlan
