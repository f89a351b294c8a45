import ClusterPlan.Proofs.Panel
import ClusterPlan.Proofs.Reread

/-!
# Namespaces of clusters

A cluster that is attached to has the text of its application as its namespace unless another one is set. As
the text is that of the application and not the one that is stored, all clients that attach to one application
come to the same namespace, however they spell its ID (`Configuration.NamedAfter.get?_eq_iff`), and the plan
names the application by the same text (`Plan.Shows`). Everything else in the configuration stays as it is
(`Configuration.descriptor_namespace`).
-/

namespace ClusterPlan.Configuration

section
variable {tolerance tolerance' : Tolerance} {c c' d d' : Configuration}

/-- Where the application to attach to cannot be told, there is no descriptor. -/
theorem descriptor_eq_error {f : Failure} (h : c.clusterId tolerance = .error f) (directory : Path) :
    c.descriptor tolerance directory = .error f := by
  rw [descriptor_eq, withNamespace_eq_error h]
  rfl

/-- The configuration of a descriptor is named after the application. -/
theorem namedAfter_of_descriptor {directory : Path} {descriptor : ClusterDescriptor}
    (h : c.descriptor tolerance directory = .ok descriptor) :
    c.NamedAfter tolerance descriptor.configuration := by
  rw [descriptor_eq] at h
  obtain ⟨d, hd, h⟩ := bind_eq_ok.1 h
  obtain rfl := Except.ok.inj h
  exact withNamespace_eq_ok_iff.1 hd

/-- Where it can be told, there is one. -/
theorem exists_descriptor {id : Option ApplicationId} (h : c.clusterId tolerance = .ok id)
    (directory : Path) : ∃ descriptor, c.descriptor tolerance directory = .ok descriptor := by
  obtain ⟨d, hd⟩ := exists_withNamespace h
  rw [descriptor_eq, hd]
  exact ⟨_, rfl⟩

namespace NamedAfter

/-- Without an application, or with a namespace, nothing changes. -/
theorem eq_self (h : c.NamedAfter tolerance d) {id : Option ApplicationId}
    (hid : c.clusterId tolerance = .ok id) (hc : id = none ∨ c.contains .namespaceId = true) : d = c := by
  cases h with
  | kept => rfl
  | added hid' hset =>
    rcases hc with rfl | hset'
    · cases hid.symm.trans hid'
    · cases hset.symm.trans hset'

/-- With an application and without a namespace, the text of the application is put behind everything else. -/
theorem entries_eq (h : c.NamedAfter tolerance d) {application : ApplicationId}
    (hid : c.clusterId tolerance = .ok (some application)) (hset : c.contains .namespaceId = false) :
    ∃ name, application.text = .ok name ∧
      d.entries = c.entries ++ [(ConfigOption.namespaceId.key, .str name)] := by
  cases h with
  | kept hid' hc =>
    rcases hc with rfl | hset'
    · cases hid.symm.trans hid'
    · cases hset.symm.trans hset'
  | added hid' _ hname hd =>
    cases hid.symm.trans hid'
    exact ⟨_, hname, hd⟩

/-- What a configuration is named after does not depend on how sizes are shown. -/
theorem unique (h : c.NamedAfter tolerance d) (h' : c.NamedAfter tolerance' d') : d' = d := by
  have hsame := clusterId_tolerance tolerance tolerance' c
  cases h with
  | kept hid hc => exact h'.eq_self (hsame.trans hid) hc
  | added hid hset hname hd =>
    obtain ⟨name, hname', hd'⟩ := h'.entries_eq (hsame.trans hid) hset
    obtain rfl := Except.ok.inj (hname.symm.trans hname')
    exact ext (Ordered.ext (hd'.trans hd.symm))

/-- The namespace that is put is the text of the application, whatever the spelling of the stored ID. So it is
a given text exactly if the stored ID spells the application of this text. -/
theorem get?_eq_iff (h : c.NamedAfter tolerance d) {raw name : String} {application : ApplicationId}
    (hraw : c.text? ConfigOption.applicationId.key = some raw) (hset : c.contains .namespaceId = false)
    (hparse : ApplicationId.parse name = .ok application) (hname : application.text = .ok name) :
    d.get? ConfigOption.namespaceId.key = some (.str name) ↔
      ApplicationId.parse raw = .ok application := by
  cases h with
  | kept hid hc =>
    rcases hc with rfl | hset'
    · rw [clusterId_eq, hraw] at hid
      cases hp : ApplicationId.parse raw <;> simp [hp] at hid
    · cases hset.symm.trans hset'
  | @added application' name' _ hid _ hname' hd =>
    obtain ⟨s, hs, hp⟩ := clusterId_eq_some_iff.1 hid
    obtain rfl := Option.some.inj (hraw.symm.trans hs)
    rw [get?_of_entries_eq hd, hp, Option.some.injEq, Value.str.injEq, Except.ok.injEq,
      ← ApplicationId.text_eq_ok_iff hparse hname hp, hname', Except.ok.injEq]

end NamedAfter

/-- **The namespace of a cluster.** A descriptor can be made exactly when the application to attach to can be
told. Its configuration is the given one if there is no application or a namespace is set. Otherwise there is
one more entry in it, at the end: the namespace, which reads as the same application as the stored ID, which
is the text by which the plan names the application, and which another configuration without a namespace comes
to exactly if its stored ID spells the same application. -/
theorem descriptor_namespace (tolerance : Tolerance) (directory : Path) (c : Configuration) :
    (∀ f, c.clusterId tolerance = .error f → c.descriptor tolerance directory = .error f) ∧
    ∀ id, c.clusterId tolerance = .ok id →
      ∃ descriptor, c.descriptor tolerance directory = .ok descriptor ∧
        (id = none ∨ c.contains .namespaceId = true → descriptor.configuration = c) ∧
        ∀ application, id = some application → c.contains .namespaceId = false → ∃ raw name,
          c.text? ConfigOption.applicationId.key = some raw ∧
          ApplicationId.parse raw = .ok application ∧ application.text = .ok name ∧
          ApplicationId.parse name = .ok application ∧
          descriptor.configuration.entries =
            c.entries ++ [(ConfigOption.namespaceId.key, .str name)] ∧
          (∀ env plan, Plan.ofConfiguration env c = .ok plan →
            plan.descriptor.configuration = descriptor.configuration ∧ plan.Shows name) ∧
          ∀ tolerance' directory' (c' : Configuration) raw' (descriptor' : ClusterDescriptor),
            c'.text? ConfigOption.applicationId.key = some raw' → c'.contains .namespaceId = false →
            c'.descriptor tolerance' directory' = .ok descriptor' →
            (descriptor'.configuration.get? ConfigOption.namespaceId.key = some (.str name) ↔
              ApplicationId.parse raw' = .ok application) := by
  refine ⟨fun f h => descriptor_eq_error h directory, fun id hid => ?_⟩
  obtain ⟨descriptor, hdescriptor⟩ := exists_descriptor hid directory
  have hnamed := namedAfter_of_descriptor hdescriptor
  refine ⟨descriptor, hdescriptor, hnamed.eq_self hid, ?_⟩
  rintro application rfl hset
  obtain ⟨raw, hraw, hparse⟩ := clusterId_eq_some_iff.1 hid
  obtain ⟨name, hname, hentries⟩ := hnamed.entries_eq hid hset
  obtain ⟨t, ht, hback⟩ := ApplicationId.exists_text hparse
  obtain rfl := Except.ok.inj (ht.symm.trans hname)
  refine ⟨raw, t, hraw, hparse, hname, hback, hentries, fun env plan hplan => ?_, ?_⟩
  · obtain ⟨-, hplanned, hcluster⟩ := Plan.ofConfiguration_eq_ok_iff.1 hplan
    rw [clusterId_tolerance tolerance, hid] at hcluster
    exact ⟨hnamed.unique (namedAfter_of_descriptor (Plan.descriptor_of_describe hplanned)),
      Plan.shows_of_parse hparse hname (Except.ok.inj hcluster).symm⟩
  · intro tolerance' directory' c' raw' descriptor' hraw' hset' hdescriptor'
    exact (namedAfter_of_descriptor hdescriptor').get?_eq_iff hraw' hset' hback hname

/-- Two clients that spell the ID of one application with blanks and zeros of their own, and the plan of the
first one. -/
theorem descriptor_namespace_of_spellings : ∃ c c' descriptor descriptor' plan,
    ofValues .standard (.ofList [("yarn.application.id", .str " application_0017_3"), ("b", .int 1)]) =
      .ok c ∧
    ofValues .standard (.ofList [("yarn.application.id", .str "application_17_00003")]) = .ok c' ∧
    c.descriptor .standard (.ofString "/tmp") = .ok descriptor ∧
    c'.descriptor .standard (.ofString "/") = .ok descriptor' ∧
    descriptor.configuration.entries =
      c.entries ++ [("high-availability.cluster-id", .str "application_17_0003")] ∧
    descriptor'.configuration.get? "high-availability.cluster-id" =
      some (.str "application_17_0003") ∧
    Plan.ofConfiguration default c = .ok plan ∧ plan.Shows "application_17_0003" := by
  obtain ⟨c, hc⟩ : ∃ c, ofValues .standard (.ofList
      [("yarn.application.id", .str " application_0017_3"), ("b", .int 1)]) = .ok c := ⟨_, rfl⟩
  obtain ⟨c', hc'⟩ : ∃ c, ofValues .standard (.ofList
      [("yarn.application.id", .str "application_17_00003")]) = .ok c := ⟨_, rfl⟩
  have hid : c.clusterId .standard = .ok (some ⟨17, 3⟩) := by
    cases hc
    exact clusterId_eq_some_iff.2 ⟨_, rfl, by decide +kernel⟩
  have hid' : c'.clusterId .standard = .ok (some ⟨17, 3⟩) := by
    cases hc'
    exact clusterId_eq_some_iff.2 ⟨_, rfl, by decide +kernel⟩
  have hset : c.contains .namespaceId = false := by cases hc; decide
  have hset' : c'.contains .namespaceId = false := by cases hc'; decide
  have hraw' : c'.text? "yarn.application.id" = some "application_17_00003" := by cases hc'; rfl
  obtain ⟨descriptor, hd, -, hnamed⟩ :=
    (descriptor_namespace .standard (.ofString "/tmp") c).2 _ hid
  obtain ⟨raw, name, -, -, hname, -, hentries, hshown, hother⟩ := hnamed _ rfl hset
  obtain ⟨descriptor', hd', -⟩ := (descriptor_namespace .standard (.ofString "/") c').2 _ hid'
  have hspelled := (hother _ _ c' _ descriptor' hraw' hset' hd').2 (by decide +kernel)
  have htext : (⟨17, 3⟩ : ApplicationId).text = .ok "application_17_0003" := by decide +kernel
  obtain rfl := Except.ok.inj (htext.symm.trans hname)
  have hsome : (Plan.ofConfiguration default c).toOption.isSome = true := by
    cases hc
    decide +kernel
  obtain ⟨plan, hplan⟩ := Option.isSome_iff_exists.1 hsome
  replace hplan := toOption_eq_some_iff.1 hplan
  exact ⟨c, c', descriptor, descriptor', plan, hc, hc', hd, hd', hentries, hspelled, hplan,
    (hshown _ plan hplan).2⟩

end

end ClusterPlan.Configuration
