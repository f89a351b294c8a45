import ClusterPlan.Proofs.Merge
import ClusterPlan.Proofs.Overlay
import ClusterPlan.Proofs.Session
import ClusterPlan.Resolution

/-!
# Precedence of the sources

A resolution lays four configurations over one another: the base, what the session record sets unless the
command line names the cluster (`sessionLayer`), what the options set, and the overrides. With numbers that
can be written it always succeeds. Under each key the last source that has it prevails, no key is lost, and
the keys keep the order of their first occurrence; the only key that no source has is the target, which
then comes last (`resolve_precedence`). Every resolution that succeeds has done the same
(`layered_of_resolve`).
-/

namespace ClusterPlan

section
variable {tolerance : Tolerance}

/-- What the session record contributes: nothing if there is none or the command line names the
cluster. -/
def sessionLayer (tolerance : Tolerance) (session : Option SessionRecord) (overlay : Overlay) :
    Except Failure Configuration :=
  match session with
  | none => .ok .empty
  | some record => if overlay.setsClusterId then .ok .empty else record.toConfiguration tolerance

/-- The first step of a resolution lays the session record over the base. -/
theorem exists_applySession {base : Configuration} {session : Option SessionRecord}
    (tolerance : Tolerance) (overlay : Overlay) (hb : base.Writable)
    (hs : ∀ r, session = some r → r.Accepted ∧ r.Writable) :
    ∃ S c, sessionLayer tolerance session overlay = .ok S ∧
      applySession tolerance base session overlay = .ok c ∧
      c.values = base.values.putAll S.entries ∧ c.Writable ∧ S.Finite := by
  cases session with
  | none => exact ⟨.empty, base, rfl, rfl, rfl, hb, Configuration.finite_empty⟩
  | some r =>
    have ⟨hr, hw⟩ := hs r rfl
    obtain ⟨id, S, hid, -, hS, -, hSw⟩ := hr.exists_toConfiguration tolerance
    rw [sessionLayer, applySession, hid]
    by_cases ho : overlay.setsClusterId = true
    · exact ⟨.empty, base, if_pos ho, if_pos ho, rfl, hb, Configuration.finite_empty⟩
    · have hSf : S.Finite := SessionRecord.finite_of_toConfiguration hS
      obtain ⟨c, hc, hv, hcw⟩ := hb.exists_merge (hSw hw) hSf.comparable_entries tolerance
      refine ⟨S, c, (if_neg ho).trans hS, ?_, hv, hcw, hSf⟩
      refine (if_neg ho).trans ?_
      rw [hS]
      exact hc

/-- The last step of a resolution sets the target if there is none. -/
theorem exists_withTarget (c : Configuration) (tolerance : Tolerance) (mode : Mode) :
    ∃ d, withTarget tolerance c mode = .ok d ∧ (c.Writable → d.Writable) ∧
      (∀ k, d.get? k = (c.get? k).or
        (if k = ConfigOption.target.key then some (.str (deriveTarget c mode)) else none)) ∧
      d.keys = if ConfigOption.target.key ∈ c.keys then c.keys
        else c.keys ++ [ConfigOption.target.key] := by
  unfold withTarget
  by_cases ht : c.contains .target = true
  · refine ⟨c, if_pos ht, id, fun k => ?_, (if_pos (Configuration.isSome_get?_iff.1 ht)).symm⟩
    by_cases hk : k = ConfigOption.target.key
    · subst hk
      obtain ⟨v, hv⟩ := Option.isSome_iff_exists.1 ht
      rw [hv, Option.some_or]
    · rw [if_neg hk, Option.or_none]
  · have hnone : c.get? ConfigOption.target.key = none := by
      simpa [Configuration.contains] using ht
    have hconv : Configuration.convertEntry tolerance ConfigOption.target.key
        (.str (deriveTarget c mode)) = .ok (.str (deriveTarget c mode)) :=
      Configuration.convertEntry_of_holds (by simp [ConfigOption.registry]) rfl
    obtain ⟨d, hd, hv⟩ := Configuration.exists_set c hconv
    have hget (k : String) : d.get? k = if ConfigOption.target.key = k then
        some (.str (deriveTarget c mode)) else c.get? k := by
      rw [Configuration.get?, hv, Ordered.get?_put]
      rfl
    refine ⟨d, (if_neg ht).trans hd, fun hc k v hk => ?_, fun k => ?_, ?_⟩
    · rw [hget] at hk
      split at hk
      · cases hk; rfl
      · exact hc k v hk
    · rw [hget]
      by_cases hk : ConfigOption.target.key = k
      · subst hk
        rw [hnone, Option.none_or, if_pos rfl]
      · rw [if_neg hk, if_neg (Ne.symm hk), Option.or_none]
    · rw [Configuration.keys, hv, Ordered.keys_put]
      rfl

/-- The configuration that four sources and a mode come to. -/
structure Layered (base session options overrides : Configuration) (mode : Mode) (c : Configuration) :
    Prop where
  /-- The last source that has a key prevails. No other key is there but the target, which follows from the
  sources if none of them has it. -/
  get? : ∀ k, c.get? k =
    ((((overrides.get? k).or (options.get? k)).or (session.get? k)).or (base.get? k)).or
      (if k = ConfigOption.target.key then
        some (.str (if base.contains .applicationId || session.contains .applicationId ||
          options.contains .applicationId || overrides.contains .applicationId || mode = .attach
          then "yarn-session" else "yarn-per-job"))
      else none)
  /-- The keys stand in the order of their first occurrence; a target that follows comes last. -/
  keys : c.keys =
    (let keys := (base.keys ++ session.keys ++ options.keys ++ overrides.keys).eraseDups
     if ConfigOption.target.key ∈ keys then keys else keys ++ [ConfigOption.target.key])

/-- Four sources put on top of one another, and the target that follows from them. -/
theorem exists_layered {base S T D c : Configuration} (tolerance : Tolerance) (mode : Mode)
    (h : c.values = ((base.values.putAll S.entries).putAll T.entries).putAll D.entries) :
    ∃ d, withTarget tolerance c mode = .ok d ∧ (c.Writable → d.Writable) ∧
      Layered base S T D mode d := by
  have hget (k : String) : c.get? k =
      (((D.get? k).or (T.get? k)).or (S.get? k)).or (base.get? k) := by
    rw [Option.or_assoc, Option.or_assoc, Configuration.get?, h]
    exact (Ordered.get?_putAll_entries ..).trans <| congrArg _ <|
      (Ordered.get?_putAll_entries ..).trans <| congrArg _ <| Ordered.get?_putAll_entries ..
  have hkeys : c.keys = (base.keys ++ S.keys ++ T.keys ++ D.keys).eraseDups := by
    rw [Configuration.keys, h, Ordered.putAll_putAll, Ordered.putAll_putAll, Ordered.keys_putAll,
      List.map_append, List.map_append, ← List.append_assoc, ← List.append_assoc]
    rfl
  have hcontains : c.contains .applicationId = (base.contains .applicationId ||
      S.contains .applicationId || T.contains .applicationId || D.contains .applicationId) := by
    simp only [Configuration.contains, hget, Option.isSome_or]
    ac_rfl
  obtain ⟨d, hd, hw, hdget, hdkeys⟩ := exists_withTarget c tolerance mode
  refine ⟨d, hd, hw, fun k => ?_, ?_⟩
  · rw [hdget, hget, deriveTarget, hcontains]
    rfl
  · rw [hdkeys, hkeys]

/-- Sources that can be written can be resolved, if the overrides can be compared with the base. -/
theorem exists_resolve_of_writable {base T : Configuration} {session : Option SessionRecord}
    {overlay : Overlay} (tolerance : Tolerance) (hb : base.Writable)
    (hs : ∀ r, session = some r → r.Accepted ∧ r.Writable)
    (hT : overlay.toConfiguration tolerance = .ok T) (hTw : T.Writable)
    (hD : overlay.dynamic.Writable) (hbD : base.Comparable overlay.dynamic.entries) :
    ∃ S c, sessionLayer tolerance session overlay = .ok S ∧
      resolve tolerance base session overlay = .ok c ∧
      Layered base S T overlay.dynamic overlay.mode c := by
  have hTf : T.Finite := Overlay.finite_of_toConfiguration hT
  obtain ⟨S, c₁, hS, h₁, hv₁, hw₁, hSf⟩ := exists_applySession tolerance overlay hb hs
  obtain ⟨c₂, h₂, hv₂, hw₂⟩ := hw₁.exists_merge hTw hTf.comparable_entries tolerance
  have hcompare : c₂.Comparable overlay.dynamic.entries :=
    (hbD.of_putAll (hSf.comparable _) hv₁).of_putAll (hTf.comparable _) hv₂
  obtain ⟨c₃, h₃, hv₃, hw₃⟩ := hw₂.exists_merge hD hcompare tolerance
  rw [hv₂, hv₁] at hv₃
  obtain ⟨c, h₄, hw, hc⟩ := exists_layered tolerance overlay.mode hv₃
  obtain ⟨s, hq⟩ := Configuration.writable_iff.1 (hw hw₃)
  refine ⟨S, c, hS, ?_, hc⟩
  simp only [resolve, h₁, hT, h₂, h₃, h₄, hq, bind, Except.bind]
  rfl

/-- Sources whose numbers can be written can be resolved. -/
theorem exists_resolve {base : Configuration} {session : Option SessionRecord} {overlay : Overlay}
    (tolerance : Tolerance) (hb : base.Writable)
    (hs : ∀ r, session = some r → r.Accepted ∧ r.Writable) (ho : overlay.Sound) :
    ∃ S T c, sessionLayer tolerance session overlay = .ok S ∧
      overlay.toConfiguration tolerance = .ok T ∧
      resolve tolerance base session overlay = .ok c ∧
      Layered base S T overlay.dynamic overlay.mode c := by
  obtain ⟨T, hT, -, hTw⟩ := overlay.exists_toConfiguration tolerance
  obtain ⟨S, c, hS, hc, hlayered⟩ :=
    exists_resolve_of_writable tolerance hb hs hT (hTw ho.numbers) ho.dynamic ho.finite.comparable_entries
  exact ⟨S, T, c, hS, hT, hc, hlayered⟩

/-! ## Resolutions that succeed -/

/-- What the first step of a resolution gives is the base with what the session record contributes. -/
theorem layer_of_applySession {base c : Configuration} {session : Option SessionRecord}
    {overlay : Overlay} (h : applySession tolerance base session overlay = .ok c) :
    ∃ S, sessionLayer tolerance session overlay = .ok S ∧ c.values = base.values.putAll S.entries := by
  cases session with
  | none => exact ⟨.empty, rfl, (Except.ok.inj h) ▸ rfl⟩
  | some r =>
    obtain ⟨⟨⟩, -, h⟩ := bind_eq_ok.1 h
    rw [sessionLayer]
    by_cases ho : overlay.setsClusterId = true
    · rw [if_pos ho] at h ⊢
      exact ⟨.empty, rfl, (Except.ok.inj h) ▸ rfl⟩
    · rw [if_neg ho] at h ⊢
      obtain ⟨S, hS, h⟩ := bind_eq_ok.1 h
      exact ⟨S, hS, (Configuration.merge_values_eq_ok_iff.1 h).2⟩

/-- A resolution that succeeds has laid its sources over one another and traced the outcome, and before
that what the overrides replace. -/
theorem layered_of_resolve {base c : Configuration} {session : Option SessionRecord} {overlay : Overlay}
    (h : resolve tolerance base session overlay = .ok c) :
    ∃ S T, sessionLayer tolerance session overlay = .ok S ∧
      overlay.toConfiguration tolerance = .ok T ∧
      Layered base S T overlay.dynamic overlay.mode c ∧ c.Writable ∧
      ∃ lower : Configuration,
        (∀ k, lower.get? k = (T.get? k).or ((S.get? k).or (base.get? k))) ∧
        lower.traceOverrides overlay.dynamic.entries = .ok () := by
  obtain ⟨c₁, h₁, h⟩ := bind_eq_ok.1 h
  obtain ⟨T, hT, h⟩ := bind_eq_ok.1 h
  obtain ⟨c₂, h₂, h⟩ := bind_eq_ok.1 h
  obtain ⟨c₃, h₃, h⟩ := bind_eq_ok.1 h
  obtain ⟨d, h₄, h⟩ := bind_eq_ok.1 h
  obtain ⟨⟨⟩, hq, h⟩ := bind_eq_ok.1 h
  cases h
  obtain ⟨S, hS, hv₁⟩ := layer_of_applySession h₁
  have ⟨_, hv₂⟩ := Configuration.merge_values_eq_ok_iff.1 h₂
  have ⟨htrace, hv₃⟩ := Configuration.merge_values_eq_ok_iff.1 h₃
  have hlower (k : String) : c₂.get? k = (T.get? k).or ((S.get? k).or (base.get? k)) := by
    rw [Configuration.get?_of_putAll hv₂, Configuration.get?_of_putAll hv₁]
  rw [hv₂, hv₁] at hv₃
  obtain ⟨d', h₄', -, hlayered⟩ := exists_layered tolerance overlay.mode hv₃
  obtain rfl := Except.ok.inj (h₄'.symm.trans h₄)
  exact ⟨S, T, hS, hT, hlayered, Configuration.writable_iff.2 (discard_eq_ok.1 hq), c₂, hlower, htrace⟩

/-- **Each source overrides the ones before it.** For accepted options and sources whose numbers can be
written a resolution succeeds, and it lays the base, the session record, the options and the overrides over
one another. -/
theorem resolve_precedence {base : Configuration} {session : Option SessionRecord} {mode : Mode}
    {options : Overlay.Options} {overlay : Overlay} (hb : base.Writable)
    (hs : ∀ r, session = some r → r.Accepted ∧ r.Writable)
    (ho : Overlay.ofOptions tolerance mode options = .ok overlay) :
    ∃ S T c, sessionLayer tolerance session overlay = .ok S ∧
      overlay.toConfiguration tolerance = .ok T ∧
      resolve tolerance base session overlay = .ok c ∧
      Layered base S T overlay.dynamic mode c := by
  obtain ⟨rfl, hsound⟩ := Overlay.sound_of_ofOptions ho
  exact exists_resolve tolerance hb hs hsound

/-- A session over a base that names another application, with a node label and an override. -/
theorem resolve_precedence_of_session : ∃ base r overlay c,
    Configuration.ofValues .standard (.ofList [("yarn.application.id", .str "application_9_0009"),
      ("a", .str "base")]) = .ok base ∧
    SessionRecord.parse .standard "file" "applicationID=application_1_0001" = .ok r ∧
    Overlay.ofOptions .standard .run (.ofList [("node_label", .str "gpu"),
      ("dynamic_properties", .list [.str "b=1", .str "a=2"])]) = .ok overlay ∧
    resolve .standard base (some r) overlay = .ok c ∧
    c.get? "a" = some (.str "2") ∧
    c.get? "yarn.application.id" = some (.str "application_1_0001") ∧
    c.get? "execution.target" = some (.str "yarn-session") ∧
    c.keys = ["yarn.application.id", "a", "yarn.application.node-label", "b", "execution.target"] := by
  obtain ⟨base, hbase⟩ : ∃ base, Configuration.ofValues .standard
      (.ofList [("yarn.application.id", .str "application_9_0009"), ("a", .str "base")]) = .ok base :=
    ⟨_, rfl⟩
  let r : SessionRecord := ⟨⟨1, 1⟩, none, none, .empty⟩
  have hr : SessionRecord.parse .standard "file" "applicationID=application_1_0001" = .ok r := rfl
  obtain ⟨overlay, ho⟩ : ∃ o, Overlay.ofOptions .standard .run (.ofList [("node_label", .str "gpu"),
      ("dynamic_properties", .list [.str "b=1", .str "a=2"])]) = .ok o := ⟨_, rfl⟩
  have hb : base.Writable := by
    rw [Configuration.writable_iff]
    cases hbase
    exact ⟨_, rfl⟩
  have hrw : r.Writable := SessionRecord.writable_of_empty rfl
  obtain ⟨S, T, c, hS, hT, hc, hget, hkeys⟩ := resolve_precedence hb
    (fun r' h => Option.some.inj h ▸ ⟨⟨.standard, "file", _, hr⟩, hrw⟩) ho
  refine ⟨base, r, overlay, c, hbase, hr, ho, hc, ?_⟩
  cases hbase
  cases ho
  have hlength : ['1'].length ≤ Text.digitLimit := by decide
  have hone : Text.isWritable ((1 : Nat) : Int) = true :=
    @Text.isWritable_ofDigits ['1'] hlength
  have hid : r.clusterId.text = .ok "application_1_0001" := ApplicationId.text_eq_ok hone hone
  replace hS : r.toConfiguration .standard = .ok S := hS
  rw [SessionRecord.toConfiguration_eq, hid] at hS
  cases hS
  cases hT
  exact ⟨(hget _).trans rfl, (hget _).trans rfl, (hget _).trans rfl, hkeys.trans rfl⟩

end

end ClusterPlan
