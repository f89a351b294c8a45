import ClusterPlan.Session
import ClusterPlan.Proofs.ApplicationId
import ClusterPlan.Proofs.Choices

/-!
# Accepted session records

A record is accepted when it was read from a properties file (`SessionRecord.Accepted`). Then its
application ID has a text that reads back, its port is within the limit, and its dynamic properties can be
converted, so what it sets is a configuration that names the application of the record, whatever the
dynamic properties say about it (`SessionRecord.Accepted.exists_toConfiguration`).
-/

namespace ClusterPlan

/-- The tolerance does not matter for the conversion of a text. -/
theorem Configuration.convertEntry_str (t u : Tolerance) (key s : String) :
    convertEntry t key (.str s) = convertEntry u key (.str s) := by
  unfold convertEntry
  split
  · next o _ =>
    obtain ⟨key, type, default, description⟩ := o
    cases type <;> rfl
  · rfl

namespace SessionRecord

variable {tolerance : Tolerance} {r : SessionRecord}

/-- The record was read from a properties file. -/
def Accepted (r : SessionRecord) : Prop :=
  ∃ settings source content, parse settings source content = .ok r

/-- The numbers that the dynamic properties set can be written. -/
def Writable (r : SessionRecord) : Prop :=
  ∀ tolerance c, Configuration.ofValues tolerance (asValues r.dynamic) = .ok c → c.Writable

/-- A record without dynamic properties sets no numbers. -/
theorem writable_of_empty {r : SessionRecord} (h : r.dynamic = .empty) : r.Writable := by
  intro tolerance c hc
  rw [h] at hc
  obtain rfl : Configuration.empty = c := Except.ok.inj hc
  exact fun _ _ => nofun

/-- Texts are texts as values. -/
theorem exists_str_of_get?_asValues {m : Ordered String} {k : String} {v : Value}
    (hv : (asValues m).get? k = some v) : ∃ s, m.get? k = some s ∧ .str s = v := by
  rw [asValues, Ordered.get?_map] at hv
  exact Option.map_eq_some_iff.1 hv

/-- Texts that can be converted can be converted with any tolerance. -/
theorem exists_ofValues_asValues {t : Tolerance} {m : Ordered String} {c : Configuration}
    (h : Configuration.ofValues t (asValues m) = .ok c) (u : Tolerance) :
    Configuration.ofValues u (asValues m) = .ok c := by
  have ⟨hk, hg⟩ := Ordered.traverse_eq_ok_iff.1 (Configuration.ofValues_eq_ok_iff.1 h)
  refine Configuration.ofValues_eq_ok_iff.2 (Ordered.traverse_eq_ok_iff.2 ⟨hk, fun k v hv => ?_⟩)
  obtain ⟨s, -, rfl⟩ := exists_str_of_get?_asValues hv
  rw [Configuration.convertEntry_str u t]
  exact hg k _ hv

/-! ## Reading -/

/-- The application ID was read from some text. -/
theorem parse_of_readId {settings : Settings} {source content : String} {ps : Ordered String}
    {id : ApplicationId} (h : readId settings source content ps = .ok id) :
    ∃ raw, ApplicationId.parse raw = .ok id := by
  obtain ⟨key, -, h⟩ := bind_eq_ok.1 h
  obtain ⟨raw, -, h⟩ := bind_eq_ok.1 h
  cases raw with
  | none =>
    obtain ⟨s, -, h⟩ := bind_eq_ok.1 h
    cases h
  | some raw =>
    replace h : parseId source raw = .ok id := h
    unfold parseId at h
    split at h
    · next hid => cases h; exact ⟨raw, hid⟩
    · cases h

/-- A port that is read is within the limit. -/
theorem isWritable_of_parseAddress {source raw host : String} {port : Int}
    (h : parseAddress source raw = .ok (host, port)) : Text.isWritable port = true := by
  unfold parseAddress at h
  split at h
  · cases h
  · split at h
    · cases h
    · obtain ⟨n, hn, h⟩ := bind_eq_ok.1 h
      obtain ⟨-, rfl⟩ := Prod.mk.inj (Except.ok.inj h)
      exact isWritable_of_readDigits hn

/-- The port of an address that is read is within the limit. -/
theorem isWritable_of_readAddress {settings : Settings} {source : String} {ps : Ordered String}
    {address : Option (String × Int)} (h : readAddress settings source ps = .ok address) {port : Int}
    (hp : address.map Prod.snd = some port) : Text.isWritable port = true := by
  obtain ⟨key, -, h⟩ := bind_eq_ok.1 h
  obtain ⟨raw, -, h⟩ := bind_eq_ok.1 h
  cases raw with
  | none => cases h; cases hp
  | some raw =>
    obtain ⟨⟨host, port'⟩, ha, h⟩ := bind_eq_ok.1 h
    cases h
    cases hp
    exact isWritable_of_parseAddress ha

/-- Dynamic properties that are read have been converted. -/
theorem ofValues_of_readDynamic {settings : Settings} {source : String} {ps dynamic : Ordered String}
    (h : readDynamic settings source ps = .ok dynamic) :
    ∃ c, Configuration.ofValues settings.tolerance (asValues dynamic) = .ok c := by
  obtain ⟨key, -, h⟩ := bind_eq_ok.1 h
  obtain ⟨raw, -, h⟩ := bind_eq_ok.1 h
  obtain ⟨pieces, -, h⟩ := bind_eq_ok.1 h
  obtain ⟨dynamic', -, h⟩ := bind_eq_ok.1 h
  obtain ⟨⟨⟩, hc, h⟩ := bind_eq_ok.1 h
  cases h
  unfold checkDynamic at hc
  split at hc
  · next c hc' => exact ⟨c, hc'⟩
  · cases hc

namespace Accepted

/-- The application ID of an accepted record has a text, which reads back. -/
theorem exists_text (h : r.Accepted) :
    ∃ t, r.clusterId.text = .ok t ∧ ApplicationId.parse t = .ok r.clusterId := by
  obtain ⟨settings, source, content, h⟩ := h
  obtain ⟨id, hid, h⟩ := bind_eq_ok.1 h
  obtain ⟨address, -, h⟩ := bind_eq_ok.1 h
  obtain ⟨dynamic, -, h⟩ := bind_eq_ok.1 h
  cases h
  obtain ⟨raw, hraw⟩ := parse_of_readId hid
  exact ApplicationId.exists_text hraw

/-- The port of an accepted record can be written. -/
theorem isWritable_port (h : r.Accepted) {port : Int} (hp : r.port = some port) :
    Text.isWritable port = true := by
  obtain ⟨settings, source, content, h⟩ := h
  obtain ⟨id, -, h⟩ := bind_eq_ok.1 h
  obtain ⟨address, ha, h⟩ := bind_eq_ok.1 h
  obtain ⟨dynamic, -, h⟩ := bind_eq_ok.1 h
  cases h
  exact isWritable_of_readAddress ha hp

/-- The dynamic properties of an accepted record can be converted. -/
theorem exists_ofValues (h : r.Accepted) (tolerance : Tolerance) :
    ∃ c, Configuration.ofValues tolerance (asValues r.dynamic) = .ok c := by
  obtain ⟨settings, source, content, h⟩ := h
  obtain ⟨id, -, h⟩ := bind_eq_ok.1 h
  obtain ⟨address, -, h⟩ := bind_eq_ok.1 h
  obtain ⟨dynamic, hd, h⟩ := bind_eq_ok.1 h
  cases h
  obtain ⟨c, hc⟩ := ofValues_of_readDynamic hd
  exact ⟨c, exists_ofValues_asValues hc tolerance⟩

end Accepted

/-! ## What a record sets -/

/-- What a record sets besides its dynamic properties, option by option; the application ID is given by
its text. -/
def choices (r : SessionRecord) (id : String) : Choices :=
  [(.applicationId, some (.str id)), (.masterAddress, r.address.map .str),
    (.masterPort, r.port.map .int)]

/-- A record sets its choices on top of its converted dynamic properties. -/
theorem toConfiguration_eq (r : SessionRecord) : r.toConfiguration tolerance = (do
      let c ← Configuration.ofValues tolerance (asValues r.dynamic)
      let id ← r.clusterId.text
      (r.choices id).apply tolerance c) := by
  have h : r.toConfiguration tolerance = (do
      let c ← Configuration.ofValues tolerance (asValues r.dynamic)
      let id ← r.clusterId.text
      let c ← Overlay.setIfGiven tolerance .applicationId (some (.str id)) c
      let c ← Overlay.setIfGiven tolerance .masterAddress (r.address.map .str) c
      Overlay.setIfGiven tolerance .masterPort (r.port.map .int) c) := by
    obtain ⟨id, address, port, dynamic⟩ := r
    cases address <;> cases port <;> rfl
  simp [h, choices, Choices.apply]

/-- It sets each option once. -/
theorem distinct_choices (r : SessionRecord) (id : String) : (r.choices id).Distinct := by
  show [ConfigOption.applicationId, .masterAddress, .masterPort].map ConfigOption.key |>.Nodup
  decide

/-- What it sets is of the types of known options. -/
theorem hold_choices (r : SessionRecord) (id : String) : (r.choices id).Hold := by
  intro o v h
  simp only [choices, List.mem_cons, Prod.mk.injEq, List.not_mem_nil, or_false] at h
  rcases h with ⟨rfl, h⟩ | ⟨rfl, h⟩ | ⟨rfl, h⟩
  · cases h
    exact ⟨by simp [ConfigOption.registry], rfl⟩
  · obtain ⟨s, -, rfl⟩ := Option.map_eq_some_iff.1 h.symm
    exact ⟨by simp [ConfigOption.registry], rfl⟩
  · obtain ⟨n, -, rfl⟩ := Option.map_eq_some_iff.1 h.symm
    exact ⟨by simp [ConfigOption.registry], rfl⟩

/-- Dynamic properties are texts, so no value that a record sets contains itself. -/
theorem finite_of_toConfiguration {c : Configuration} (h : r.toConfiguration tolerance = .ok c) :
    c.Finite := by
  rw [toConfiguration_eq] at h
  obtain ⟨d, hd, h⟩ := bind_eq_ok.1 h
  obtain ⟨id, -, h⟩ := bind_eq_ok.1 h
  obtain ⟨c', hc', hv⟩ := Choices.exists_apply (r.hold_choices id) d
  obtain rfl := Except.ok.inj (hc'.symm.trans h)
  refine Choices.finite (r.hold_choices id) hv fun key w hw => ?_
  obtain ⟨v, hm, hconv⟩ := Ordered.mem_traverseEntries
    (Ordered.traverse_eq_ok.1 (Configuration.ofValues_eq_ok_iff.1 hd)) (Ordered.get?_eq_some_iff.1 hw)
  obtain ⟨s, -, rfl⟩ := exists_str_of_get?_asValues (Ordered.get?_eq_some_iff.2 hm)
  exact Configuration.isFinite_of_convertEntry rfl hconv

/-- An accepted record sets a configuration that names its application. -/
theorem Accepted.exists_toConfiguration (h : r.Accepted) (tolerance : Tolerance) :
    ∃ id c, r.clusterId.text = .ok id ∧ ApplicationId.parse id = .ok r.clusterId ∧
      r.toConfiguration tolerance = .ok c ∧
      c.get? ConfigOption.applicationId.key = some (.str id) ∧ (r.Writable → c.Writable) := by
  obtain ⟨id, hid, hparse⟩ := h.exists_text
  obtain ⟨d, hd⟩ := h.exists_ofValues tolerance
  obtain ⟨c, hc, hv⟩ := Choices.exists_apply (r.hold_choices id) d
  refine ⟨id, c, hid, hparse, ?_, ?_, fun hr => ?_⟩
  · rw [toConfiguration_eq, hd, hid]
    exact hc
  · exact Choices.get?_of_mem (r.distinct_choices id) hv (o := .applicationId) List.mem_cons_self
  · refine Choices.writable hv (hr tolerance d hd) fun o v hm => ?_
    simp only [choices, List.mem_cons, Prod.mk.injEq, List.not_mem_nil, or_false] at hm
    rcases hm with ⟨-, hm⟩ | ⟨-, hm⟩ | ⟨-, hm⟩
    · cases hm
      rfl
    · obtain ⟨s, -, rfl⟩ := Option.map_eq_some_iff.1 hm.symm
      rfl
    · obtain ⟨n, hn, rfl⟩ := Option.map_eq_some_iff.1 hm.symm
      exact h.isWritable_port hn

end SessionRecord

end ClusterPlan
