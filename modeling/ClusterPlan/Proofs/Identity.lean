import ClusterPlan.Pass
import ClusterPlan.Proofs.Cluster
import ClusterPlan.Proofs.Precedence

/-!
# The identity of the cluster

A pass says whether there is a session cluster to attach to and whether the session record takes part
before anything is resolved, from the options alone. Both answers agree with the resolution
(`Pass.identity`): there is a cluster to attach to exactly when the final configuration names an
application; if the record takes part, that application is the one of the record; if it does not, the
record has no influence at all; and a final configuration names an application that cannot be read only if
the base does.
-/

namespace ClusterPlan

section
variable {tolerance : Tolerance} {base S T D c : Configuration} {mode : Mode}

/-! ## The application that the sources name -/

theorem Layered.get?_applicationId (h : Layered base S T D mode c) :
    c.get? ConfigOption.applicationId.key =
      (((D.get? ConfigOption.applicationId.key).or (T.get? ConfigOption.applicationId.key)).or
        (S.get? ConfigOption.applicationId.key)).or (base.get? ConfigOption.applicationId.key) := by
  rw [h.get?, if_neg (by decide), Option.or_none]

namespace Overlay

/-- The command line names the cluster exactly when the options or the overrides set its ID. -/
theorem setsClusterId_eq {o : Overlay} (hT : T.get? ConfigOption.applicationId.key =
    o.clusterId.map .str) : o.setsClusterId = ((o.dynamic.get? ConfigOption.applicationId.key).or
      (T.get? ConfigOption.applicationId.key)).isSome := by
  rw [setsClusterId, hT, Option.isSome_or, Option.isSome_map, Bool.or_comm]
  rfl

/-- An ID that the command line sets can be read. -/
theorem Sound.readable {o : Overlay} (h : o.Sound) (hT : T.get? ConfigOption.applicationId.key =
    o.clusterId.map .str) {v : Value} (hv : (o.dynamic.get? ConfigOption.applicationId.key).or
      (T.get? ConfigOption.applicationId.key) = some v) :
    ∃ s id, v = .str s ∧ ApplicationId.parse s = .ok id := by
  rcases Option.or_eq_some_iff.1 hv with hv | ⟨-, hv⟩
  · exact h.override v hv
  · rw [hT] at hv
    obtain ⟨s, hs, rfl⟩ := Option.map_eq_some_iff.1 hv
    obtain ⟨id, hid⟩ := h.flag s hs
    exact ⟨s, id, rfl, hid⟩

/-- The mode has no part in the reading of the options. -/
theorem ofOptions_mode {mode : Mode} {options : Options} {o : Overlay}
    (h : ofOptions tolerance mode options = .ok o) (mode' : Mode) :
    ofOptions tolerance mode' options = .ok { o with mode := mode' } := by
  obtain ⟨-, ⟨h₁, h₂, h₃, h₄, h₅, h₆, h₇, h₈, h₉⟩, ht⟩ := ofOptions_eq_ok_iff.1 h
  exact ofOptions_eq_ok_iff.2 ⟨rfl, ⟨h₁, h₂, h₃, h₄, h₅, h₆, h₇, h₈, h₉⟩, ht⟩

end Overlay

/-- A session record that does not count leaves the base as it is, whatever is in it. -/
theorem applySession_of_setsClusterId {session : Option SessionRecord} {overlay : Overlay}
    (hs : ∀ r, session = some r → r.Accepted) (h : overlay.setsClusterId = true) :
    applySession tolerance base session overlay = .ok base := by
  cases session with
  | none => rfl
  | some r =>
    obtain ⟨id, hid, -⟩ := (hs r rfl).exists_text
    rw [applySession, hid]
    exact if_pos h

/-- If the command line does not name the cluster, a session record sets its own application. -/
theorem get?_sessionLayer {r : SessionRecord} {overlay : Overlay} (hr : r.Accepted)
    (ho : overlay.setsClusterId = false) (h : sessionLayer tolerance (some r) overlay = .ok S) :
    ∃ s, S.get? ConfigOption.applicationId.key = some (.str s) ∧
      ApplicationId.parse s = .ok r.clusterId := by
  obtain ⟨s, S', -, hparse, hS, hget, -⟩ := hr.exists_toConfiguration tolerance
  rw [sessionLayer, ho] at h
  obtain rfl := Except.ok.inj (hS.symm.trans h)
  exact ⟨s, hget, hparse⟩

/-- Who names the application of a final configuration: the command line, or else the session record, or
else the base. -/
theorem Layered.named {session : Option SessionRecord} {overlay : Overlay}
    (hs : ∀ r, session = some r → r.Accepted) (ho : overlay.Sound)
    (hS : sessionLayer tolerance session overlay = .ok S)
    (hT : T.get? ConfigOption.applicationId.key = overlay.clusterId.map .str)
    (h : Layered base S T overlay.dynamic mode c) :
    (overlay.setsClusterId = true ∧ ∃ s id,
      c.get? ConfigOption.applicationId.key = some (.str s) ∧ ApplicationId.parse s = .ok id) ∨
    (overlay.setsClusterId = false ∧ ∃ r s, session = some r ∧
      c.get? ConfigOption.applicationId.key = some (.str s) ∧
      ApplicationId.parse s = .ok r.clusterId) ∨
    (overlay.setsClusterId = false ∧ session = none ∧
      c.get? ConfigOption.applicationId.key = base.get? ConfigOption.applicationId.key) := by
  have hget := h.get?_applicationId
  have hsets := Overlay.setsClusterId_eq hT
  cases hcl : (overlay.dynamic.get? ConfigOption.applicationId.key).or
      (T.get? ConfigOption.applicationId.key) with
  | some v =>
    obtain ⟨s, id, rfl, hid⟩ := ho.readable hT hcl
    rw [hcl, Option.some_or, Option.some_or] at hget
    exact .inl ⟨by rw [hsets, hcl]; rfl, s, id, hget, hid⟩
  | none =>
    rw [hcl, Option.none_or] at hget
    have hno : overlay.setsClusterId = false := by rw [hsets, hcl]; rfl
    cases session with
    | none =>
      obtain rfl : Configuration.empty = S := Except.ok.inj hS
      exact .inr (.inr ⟨hno, rfl, hget⟩)
    | some r =>
      obtain ⟨s, hget', hparse⟩ := get?_sessionLayer (hs r rfl) hno hS
      rw [hget', Option.some_or] at hget
      exact .inr (.inl ⟨hno, r, s, rfl, hget, hparse⟩)

namespace Configuration

/-- A configuration that names an application by an ID that can be read has that application. -/
theorem clusterId_of_get? {s : String} {id : ApplicationId}
    (h : c.get? ConfigOption.applicationId.key = some (.str s)) (hs : ApplicationId.parse s = .ok id) :
    c.clusterId tolerance = .ok (some id) :=
  clusterId_eq_some_iff.2 ⟨s, by rw [text?, h]; rfl, hs⟩

/-- The application of a configuration cannot be told only if the ID that names it cannot be read. -/
theorem get?_of_clusterId_eq_error {f : Failure} (h : c.clusterId tolerance = .error f) :
    ∃ s, c.get? ConfigOption.applicationId.key = some (.str s) ∧ ApplicationId.parse s = .error f := by
  have hstr := get?_string c (o := .applicationId) (by simp [ConfigOption.registry]) rfl
  rw [clusterId_eq] at h
  cases ht : c.text? ConfigOption.applicationId.key with
  | none => rw [ht] at h; cases h
  | some s =>
    rw [ht] at h hstr
    refine ⟨s, hstr, ?_⟩
    cases hp : ApplicationId.parse s with
    | ok id => simp [hp] at h
    | error g => simpa [hp] using h

end Configuration

/-! ## Passes -/

namespace Pass

variable {env : Environment} {pass : Pass} {options : Overlay.Options} {overlay : Overlay}

/-- The overlay of a pass is that of the options, with other ship files. -/
theorem exists_ofOptions (h : Pass.overlay env options mode = .ok overlay) :
    ∃ o files, Overlay.ofOptions env.tolerance mode options = .ok o ∧
      overlay = { o with shipFiles := files } := by
  obtain ⟨o, ho, h⟩ := bind_eq_ok.1 h
  by_cases hf : o.shipFiles.isEmpty = true
  · rw [if_pos hf] at h
    exact ⟨o, o.shipFiles, ho, (Except.ok.inj h).symm⟩
  · rw [if_neg hf] at h
    obtain ⟨files, -, h⟩ := bind_eq_ok.1 h
    exact ⟨o, files.map Path.text, ho, (Except.ok.inj h).symm⟩

/-- Ship files have no part in what is checked of the options. -/
theorem sound_of_overlay (h : Pass.overlay env options mode = .ok overlay) : overlay.Sound := by
  obtain ⟨o, files, ho, rfl⟩ := exists_ofOptions h
  have ⟨_, hsound⟩ := Overlay.sound_of_ofOptions ho
  exact ⟨hsound.numbers, hsound.dynamic, hsound.finite, hsound.flag, hsound.override⟩

/-- The overlay by which a pass answers names the cluster when the one of the resolution does. -/
theorem exists_ofOptions_run (h : Pass.overlay env options mode = .ok overlay) :
    ∃ o, Overlay.ofOptions env.tolerance .run options = .ok o ∧
      o.setsClusterId = overlay.setsClusterId := by
  obtain ⟨o, files, ho, rfl⟩ := exists_ofOptions h
  exact ⟨_, Overlay.ofOptions_mode ho .run, rfl⟩

theorem isActive_eq (pass : Pass) (h : Pass.overlay env options mode = .ok overlay) :
    pass.isActive env options = .ok (overlay.setsClusterId || pass.base.contains .applicationId ||
      pass.session.isSome) := by
  obtain ⟨o, ho, hsets⟩ := exists_ofOptions_run h
  rw [isActive, ho, ← hsets]
  rfl

theorem usesSession_of_ofOptions (pass : Pass) {o : Overlay}
    (h : Overlay.ofOptions env.tolerance mode options = .ok o) :
    pass.usesSession env options = .ok (pass.session.isSome && !o.setsClusterId) := by
  rw [usesSession, Overlay.ofOptions_mode h .run]
  cases pass.session <;> rfl

theorem usesSession_eq (pass : Pass) (h : Pass.overlay env options mode = .ok overlay) :
    pass.usesSession env options = .ok (pass.session.isSome && !overlay.setsClusterId) := by
  obtain ⟨o, ho, hsets⟩ := exists_ofOptions_run h
  rw [usesSession_of_ofOptions pass ho, hsets]

/-- If the command line names the cluster, any other session record gives the same configuration. -/
theorem toConfiguration_eq_of_setsClusterId (ho : Pass.overlay env options mode = .ok overlay)
    (hsets : overlay.setsClusterId = true) {session session' : Option SessionRecord}
    (hs : ∀ r, session = some r → r.Accepted) (hs' : ∀ r, session' = some r → r.Accepted) :
    toConfiguration env ⟨pass.base, session'⟩ options mode =
      toConfiguration env ⟨pass.base, session⟩ options mode := by
  rw [toConfiguration, toConfiguration, ho]
  show resolve env.tolerance pass.base session' overlay = resolve env.tolerance pass.base session overlay
  rw [resolve, resolve, applySession_of_setsClusterId hs hsets, applySession_of_setsClusterId hs' hsets]

/-- **What a pass says about the session is what the resolution does.** For accepted options there is a
cluster to attach to exactly when the final configuration names an application. If the session record takes
part, this is the application of the record. If there is a record that takes no part, no other record and
none at all give the same configuration. And what names the application cannot be read only if neither the
command line nor the record names it and the base has a malformed ID. -/
theorem identity (hb : pass.base.Writable)
    (hs : ∀ r, pass.session = some r → r.Accepted ∧ r.Writable)
    (ho : Pass.overlay env options mode = .ok overlay) :
    ∃ c uses, pass.toConfiguration env options mode = .ok c ∧
      pass.isActive env options = .ok (c.contains .applicationId) ∧
      pass.usesSession env options = .ok uses ∧
      (uses = true → ∃ r, pass.session = some r ∧
        c.clusterId env.tolerance = .ok (some r.clusterId)) ∧
      (pass.session.isSome → uses = false → ∀ session : Option SessionRecord,
        (∀ r, session = some r → r.Accepted) →
        Pass.toConfiguration env ⟨pass.base, session⟩ options mode = .ok c) ∧
      (∀ f, c.clusterId env.tolerance = .error f →
        overlay.setsClusterId = false ∧ uses = false ∧
        ∃ s, pass.base.get? ConfigOption.applicationId.key = some (.str s) ∧
          ApplicationId.parse s = .error f) := by
  have hsound := sound_of_overlay ho
  have haccepted (r : SessionRecord) (h : pass.session = some r) : r.Accepted := (hs r h).1
  obtain ⟨S, T, c, hS, hT, hc, hlayered⟩ := exists_resolve env.tolerance hb hs hsound
  obtain ⟨T', hT', hget, -⟩ := overlay.exists_toConfiguration env.tolerance
  obtain rfl := Except.ok.inj (hT'.symm.trans hT)
  have hconf : pass.toConfiguration env options mode = .ok c := by
    rw [toConfiguration, ho]
    exact hc
  have hactive := pass.isActive_eq ho
  have huses := pass.usesSession_eq ho
  rcases hlayered.named haccepted hsound hS hget with
    ⟨hsets, s, id, hid, hparse⟩ | ⟨hsets, r, s, hr, hid, hparse⟩ | ⟨hsets, hnone, hbase⟩
  · have hcontains : c.contains .applicationId = true := by rw [Configuration.contains, hid]; rfl
    have hread : c.clusterId env.tolerance = .ok (some _) :=
      Configuration.clusterId_of_get? hid hparse
    rw [hsets, Bool.true_or, Bool.true_or, ← hcontains] at hactive
    rw [hsets, Bool.not_true, Bool.and_false] at huses
    refine ⟨c, false, hconf, hactive, huses, fun h => absurd h Bool.false_ne_true,
      fun _ _ session hsession => ?_, fun f hf => ?_⟩
    · rw [toConfiguration_eq_of_setsClusterId ho hsets haccepted hsession]
      exact hconf
    · rw [hread] at hf
      cases hf
  · have hcontains : c.contains .applicationId = true := by rw [Configuration.contains, hid]; rfl
    have hread : c.clusterId env.tolerance = .ok (some _) :=
      Configuration.clusterId_of_get? hid hparse
    rw [hr, Option.isSome_some, Bool.or_true, ← hcontains] at hactive
    rw [hr, hsets, Option.isSome_some, Bool.not_false, Bool.and_true] at huses
    refine ⟨c, true, hconf, hactive, huses, fun _ => ⟨r, hr, hread⟩,
      fun _ h => absurd h.symm Bool.false_ne_true, fun f hf => ?_⟩
    rw [hread] at hf
    cases hf
  · have hcontains : c.contains .applicationId = pass.base.contains .applicationId := by
      rw [Configuration.contains, hbase]; rfl
    rw [hsets, hnone, Option.isSome_none, Bool.or_false, Bool.false_or, ← hcontains] at hactive
    rw [hnone, Option.isSome_none, Bool.false_and] at huses
    refine ⟨c, false, hconf, hactive, huses, fun h => absurd h Bool.false_ne_true,
      fun h => by simp [hnone] at h, fun f hf => ?_⟩
    obtain ⟨s, hs, hparse⟩ := Configuration.get?_of_clusterId_eq_error hf
    exact ⟨hsets, rfl, s, hbase ▸ hs, hparse⟩

/-- A session over a base that names its application by a text that is no ID. -/
theorem identity_of_session : ∃ base r c, Configuration.ofValues .standard
      (.ofList [("yarn.application.id", .str "none")]) = .ok base ∧
    SessionRecord.parse .standard "file" "applicationID=application_1_0001" = .ok r ∧
    Pass.toConfiguration default ⟨base, some r⟩ (.ofList [("node_label", .str "gpu")]) .run = .ok c ∧
    Pass.isActive default ⟨base, some r⟩ (.ofList [("node_label", .str "gpu")]) = .ok true ∧
    Pass.usesSession default ⟨base, some r⟩ (.ofList [("node_label", .str "gpu")]) = .ok true ∧
    c.clusterId .standard = .ok (some ⟨1, 1⟩) := by
  obtain ⟨base, hbase⟩ : ∃ base, Configuration.ofValues .standard
      (.ofList [("yarn.application.id", .str "none")]) = .ok base := ⟨_, rfl⟩
  let r : SessionRecord := ⟨⟨1, 1⟩, none, none, .empty⟩
  have hr : SessionRecord.parse .standard "file" "applicationID=application_1_0001" = .ok r := rfl
  obtain ⟨overlay, ho⟩ : ∃ o, Pass.overlay default (.ofList [("node_label", .str "gpu")]) .run = .ok o :=
    ⟨_, rfl⟩
  let pass : Pass := ⟨base, some r⟩
  have hb : pass.base.Writable := by
    rw [Configuration.writable_iff]
    cases hbase
    exact ⟨_, rfl⟩
  have hrw : r.Writable := SessionRecord.writable_of_empty rfl
  have hs (r' : SessionRecord) (h : pass.session = some r') : r'.Accepted ∧ r'.Writable :=
    Option.some.inj h ▸ ⟨⟨.standard, "file", _, hr⟩, hrw⟩
  obtain ⟨c, uses, hc, hactive, huses, happlied, -, -⟩ := identity hb hs ho
  have hused : usesSession default pass (.ofList [("node_label", .str "gpu")]) = .ok true := rfl
  obtain ⟨r', hr', hread⟩ := happlied (Except.ok.inj (huses.symm.trans hused))
  cases hr'
  refine ⟨base, r, c, hbase, hr, hc, ?_, hused, hread⟩
  cases hbase
  rfl

end Pass

end

end ClusterPlan
