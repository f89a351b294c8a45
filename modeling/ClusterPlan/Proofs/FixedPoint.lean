import ClusterPlan.Proofs.Identity
import ClusterPlan.Proofs.Reread

/-!
# Resolutions of what was resolved

A final configuration has a target, and under each key what the last source sets, so the same sources laid
over it once more set nothing new (`Layered.eq_of_contains`). The namespace that a descriptor adds to it
follows from the application, and no other derivation depends on it (`Configuration.Namespaced`). So a final
configuration, and likewise the configuration of its descriptor, is a fixed point of the resolution, and the
same cluster is derived from both (`resolve_fixed`).
-/

namespace ClusterPlan

/-- Keys that are all there already do not count again. -/
theorem Ordered.eraseDups_append_of_subset {ks ls : List String} (hks : ks.Nodup) (h : ls ⊆ ks) :
    (ks ++ ls).eraseDups = ks := by
  induction ls with
  | nil => rw [List.append_nil, eraseDups_eq_self hks]
  | cons l ls ih =>
    have ⟨hl, hls⟩ := List.cons_subset.1 h
    rw [eraseDups_append_cons_of_mem hl, ih hls]

section
variable {tolerance : Tolerance} {base S T D c d : Configuration} {mode : Mode}

/-! ## Sources that set nothing new -/

/-- Sources that set nothing but what is there leave a configuration that has a target as it is. -/
theorem Layered.eq_of_contains (h : Layered base S T D mode c) (ht : base.contains .target = true)
    (hu : ∀ k v, ((D.get? k).or (T.get? k)).or (S.get? k) = some v → base.get? k = some v) :
    c = base := by
  have hget (k : String) : c.get? k = base.get? k := by
    rw [h.get?]
    cases hk : ((D.get? k).or (T.get? k)).or (S.get? k) with
    | some v => rw [hu k v hk, Option.some_or, Option.some_or]
    | none =>
      rw [Option.none_or]
      split
      · next hkey =>
        obtain ⟨v, hv⟩ := Option.isSome_iff_exists.1 ht
        rw [hkey, hv, Option.some_or]
      · rw [Option.or_none]
  have hsubset : S.keys ++ T.keys ++ D.keys ⊆ base.keys := by
    intro k hk
    have hsome : (((D.get? k).or (T.get? k)).or (S.get? k)).isSome = true := by
      simp only [List.mem_append, ← Configuration.isSome_get?_iff] at hk
      simp only [Option.isSome_or, Bool.or_eq_true]
      tauto
    obtain ⟨v, hv⟩ := Option.isSome_iff_exists.1 hsome
    rw [← Configuration.isSome_get?_iff, hu k v hv]
    rfl
  have hkeys : (base.keys ++ S.keys ++ T.keys ++ D.keys).eraseDups = base.keys := by
    rw [List.append_assoc, List.append_assoc, ← List.append_assoc S.keys]
    exact Ordered.eraseDups_append_of_subset base.values.distinct hsubset
  refine Configuration.ext_get? ?_ hget
  rw [h.keys, hkeys]
  exact if_pos (Configuration.isSome_get?_iff.1 ht)

/-- A final configuration has a target. -/
theorem Layered.contains_target (h : Layered base S T D mode c) : c.contains .target = true := by
  rw [Configuration.contains, h.get?, if_pos rfl, Option.isSome_or]
  exact Bool.or_true _

/-- A final configuration has what the last source sets. -/
theorem Layered.get?_of_upper (h : Layered base S T D mode c) {k : String} {v : Value}
    (hv : ((D.get? k).or (T.get? k)).or (S.get? k) = some v) : c.get? k = some v := by
  rw [h.get?, hv, Option.some_or, Option.some_or]

/-- Sources that were laid over a configuration set nothing new when they are laid over it again. -/
theorem resolve_again {session : Option SessionRecord} {overlay : Overlay}
    (hs : ∀ r, session = some r → r.Accepted ∧ r.Writable) (ho : overlay.Sound)
    (h : resolve tolerance base session overlay = .ok c) :
    resolve tolerance c session overlay = .ok c := by
  obtain ⟨S, T, hS, hT, hlayered, hw, -⟩ := layered_of_resolve h
  obtain ⟨S', T', c', hS', hT', hc', hlayered'⟩ := exists_resolve tolerance hw hs ho
  obtain rfl := Except.ok.inj (hS.symm.trans hS')
  obtain rfl := Except.ok.inj (hT.symm.trans hT')
  rw [hc', hlayered'.eq_of_contains hlayered.contains_target fun k v => hlayered.get?_of_upper]

/-- Without any other source a configuration that has a target stays as it is. -/
theorem resolve_alone (hw : c.Writable) (ht : c.contains .target = true) :
    resolve tolerance c none {} = .ok c := by
  have hT : ({} : Overlay).toConfiguration tolerance = .ok .empty := rfl
  have hempty : Configuration.empty.Writable := fun _ _ => nofun
  have hnone (r : SessionRecord) (h : none = some r) : r.Accepted ∧ r.Writable := nomatch h
  obtain ⟨S, c', hS, hc', hlayered⟩ :=
    exists_resolve_of_writable tolerance hw hnone hT hempty hempty nofun
  cases hS
  rw [hc', hlayered.eq_of_contains ht fun k v => nofun]

/-! ## The configuration of a descriptor -/

namespace Configuration

/-- A configuration with a namespace, or one for which none follows, that differs from another one only by
the namespace. -/
structure Namespaced (tolerance : Tolerance) (c d : Configuration) : Prop where
  get?_of_ne : ∀ k, k ≠ ConfigOption.namespaceId.key → d.get? k = c.get? k
  again : d.withNamespace tolerance = .ok d
  writable : c.Writable → d.Writable

theorem Namespaced.value? (h : c.Namespaced tolerance d) {o : ConfigOption}
    (ho : o.key ≠ ConfigOption.namespaceId.key) : d.value? o = c.value? o := by
  rw [Configuration.value?, Configuration.value?, h.get?_of_ne o.key ho]

/-- The shape of the cluster does not depend on the namespace. -/
theorem Namespaced.specification (h : c.Namespaced tolerance d) :
    d.specification = c.specification :=
  specification_congr (h.value? (by decide)) (h.value? (by decide)) (h.value? (by decide))

/-- Neither does the application to attach to. -/
theorem Namespaced.clusterId (h : c.Namespaced tolerance d) :
    d.clusterId tolerance = c.clusterId tolerance :=
  clusterId_congr (h.value? (by decide))

/-- The namespace that a descriptor adds makes a configuration to which it adds no other. -/
theorem namespaced_of_withNamespace (h : c.withNamespace tolerance = .ok d) :
    c.Namespaced tolerance d := by
  have hnamed := withNamespace_eq_ok_iff.1 h
  have hother {k : String} (hk : k ≠ ConfigOption.namespaceId.key) : d.get? k = c.get? k :=
    hnamed.get?_of_ne hk
  cases hnamed with
  | kept => exact ⟨fun _ _ => rfl, h, id⟩
  | added hid hset hname hd =>
    have hget := get?_of_entries_eq hd
    have hid' : d.clusterId tolerance = .ok (some _) :=
      (clusterId_congr (by rw [value?, value?, hother (by decide)])).trans hid
    have hset' : d.contains .namespaceId = true := by
      rw [contains, hget]
      rfl
    refine ⟨fun _ => hother, withNamespace_eq_ok_iff.2 (.kept hid' (.inr hset')), fun hc k v hk => ?_⟩
    by_cases hkey : k = ConfigOption.namespaceId.key
    · subst hkey
      cases hget.symm.trans hk
      rfl
    · exact hc k v ((hother hkey).symm.trans hk)

/-- The configuration of a descriptor gives the same descriptor, and the same application and shape follow
from it. -/
theorem descriptor_again {directory : Path} {descriptor : ClusterDescriptor}
    (h : c.descriptor tolerance directory = .ok descriptor) :
    c.Namespaced tolerance descriptor.configuration ∧
      descriptor.configuration.descriptor tolerance directory = .ok descriptor := by
  rw [descriptor_eq] at h
  obtain ⟨d, hd, h⟩ := bind_eq_ok.1 h
  cases h
  have hnamespaced := namespaced_of_withNamespace hd
  refine ⟨hnamespaced, ?_⟩
  rw [descriptor_eq, hnamespaced.again]
  rfl

end Configuration

/-- **Resolving again changes nothing.** For accepted options and sources whose numbers can be written, the
final configuration is resolved into itself, with its keys in order, by the same sources and also without any
other source. If it has a descriptor, the configuration of that one is resolved into itself too, and it gives
the same descriptor, the same application and the same shape of the cluster. -/
theorem resolve_fixed {session : Option SessionRecord} {options : Overlay.Options} {overlay : Overlay}
    (hb : base.Writable) (hs : ∀ r, session = some r → r.Accepted ∧ r.Writable)
    (ho : Overlay.ofOptions tolerance mode options = .ok overlay) :
    ∃ c, resolve tolerance base session overlay = .ok c ∧
      resolve tolerance c session overlay = .ok c ∧
      resolve tolerance c none {} = .ok c ∧
      ∀ directory descriptor, c.descriptor tolerance directory = .ok descriptor →
        resolve tolerance descriptor.configuration none {} = .ok descriptor.configuration ∧
        descriptor.configuration.descriptor tolerance directory = .ok descriptor ∧
        descriptor.configuration.clusterId tolerance = c.clusterId tolerance ∧
        descriptor.configuration.specification = c.specification := by
  have ⟨_, hsound⟩ := Overlay.sound_of_ofOptions ho
  obtain ⟨S, T, c, hS, hT, hc, hlayered⟩ := exists_resolve tolerance hb hs hsound
  obtain ⟨-, -, -, -, -, hw, -⟩ := layered_of_resolve hc
  have htarget := hlayered.contains_target
  refine ⟨c, hc, resolve_again hs hsound hc, resolve_alone hw htarget, fun directory descriptor hd => ?_⟩
  obtain ⟨hnamespaced, hagain⟩ := Configuration.descriptor_again hd
  have hdt : descriptor.configuration.contains .target = true := by
    rw [Configuration.contains, hnamespaced.get?_of_ne _ (by decide)]
    exact htarget
  exact ⟨resolve_alone (hnamespaced.writable hw) hdt, hagain,
    hnamespaced.clusterId, hnamespaced.specification⟩

/-- A session whose application becomes the namespace in the descriptor. -/
theorem resolve_fixed_of_session : ∃ base r overlay c descriptor,
    Configuration.ofValues .standard (.ofList [("yarn.ship-files", .str "a;b")]) = .ok base ∧
    SessionRecord.parse .standard "file" "applicationID=application_1_0001" = .ok r ∧
    Overlay.ofOptions .standard .run (.ofList [("node_label", .str "gpu"),
      ("dynamic_properties", .list [.str "b=1"])]) = .ok overlay ∧
    resolve .standard base (some r) overlay = .ok c ∧
    resolve .standard c (some r) overlay = .ok c ∧
    c.text? "high-availability.cluster-id" = none ∧
    c.descriptor .standard (.ofString "/tmp") = .ok descriptor ∧
    descriptor.configuration.text? "high-availability.cluster-id" = some "application_1_0001" ∧
    resolve .standard descriptor.configuration none {} = .ok descriptor.configuration := by
  obtain ⟨base, hbase⟩ : ∃ base, Configuration.ofValues .standard
      (.ofList [("yarn.ship-files", .str "a;b")]) = .ok base := ⟨_, rfl⟩
  let r : SessionRecord := ⟨⟨1, 1⟩, none, none, .empty⟩
  have hr : SessionRecord.parse .standard "file" "applicationID=application_1_0001" = .ok r := rfl
  obtain ⟨overlay, ho⟩ : ∃ o, Overlay.ofOptions .standard .run (.ofList [("node_label", .str "gpu"),
      ("dynamic_properties", .list [.str "b=1"])]) = .ok o := ⟨_, rfl⟩
  have hb : base.Writable := by
    rw [Configuration.writable_iff]
    cases hbase
    exact ⟨_, rfl⟩
  have hrw : r.Writable := SessionRecord.writable_of_empty rfl
  obtain ⟨c, hc, hagain, -, hfixed⟩ := resolve_fixed hb
    (fun r' h => Option.some.inj h ▸ ⟨⟨.standard, "file", _, hr⟩, hrw⟩) ho
  -- the namespace before and after the descriptor is made
  have hnamespaces : ((resolve .standard base (some r) overlay).toOption.bind fun c =>
      (c.descriptor .standard (.ofString "/tmp")).toOption.map fun descriptor =>
        (c.text? "high-availability.cluster-id",
          descriptor.configuration.text? "high-availability.cluster-id")) =
      some (none, some "application_1_0001") := by
    cases hbase
    cases ho
    decide +kernel
  rw [hc] at hnamespaces
  obtain ⟨descriptor, hd, htexts⟩ := Option.map_eq_some_iff.1 hnamespaces
  obtain ⟨hbefore, hafter⟩ := Prod.mk.inj htexts
  have hdescriptor := toOption_eq_some_iff.1 hd
  exact ⟨base, r, overlay, c, descriptor, hbase, hr, ho, hc, hagain, hbefore, hdescriptor, hafter,
    (hfixed _ _ hdescriptor).1⟩

end

end ClusterPlan
