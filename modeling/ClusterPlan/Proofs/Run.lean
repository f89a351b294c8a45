import ClusterPlan.Program
import ClusterPlan.Proofs.Document
import ClusterPlan.Proofs.Identity
import ClusterPlan.Proofs.Panel
import ClusterPlan.Proofs.Rejection

/-!
# Runs that resolve

A resolution goes through its stages one after the other and breaks off at the first one that fails
(`Program.FailsAt`). So a run under the standard settings either prints the whole plan, or prints nothing and
logs this one failure. The session record is decided on twice, once by the resolution and once for the log, from
options that are read again; both times it is the same one, so what is logged is the application of the plan
(`Program.run_resolve`).
-/

namespace ClusterPlan

open CommandLine

/-- A record that is loaded is accepted. -/
theorem SessionRecord.accepted_of_load {env : Environment} {directory : Path} {user : String}
    {record : SessionRecord} (h : load env directory user = .ok (some record)) : record.Accepted := by
  obtain ⟨name, -, h⟩ := bind_eq_ok.1 h
  obtain ⟨found, -, h⟩ := bind_eq_ok.1 h
  split at h
  · cases h
  · split at h
    · obtain ⟨bytes, -, h⟩ := bind_eq_ok.1 h
      dsimp only at h
      split at h
      · obtain ⟨text, -, h⟩ := bind_eq_ok.1 h
        cases hparse : parse env.settings (directory.join (.ofString name)).text
            (.ofList (Text.unifyLineEnds text)) with
        | error f => cases hparse ▸ h
        | ok record' =>
          cases hparse ▸ h
          exact ⟨_, _, _, hparse⟩
      · cases h
    · cases h

namespace Pass

variable {env : Environment} {base : Configuration} {directory : Option Path} {user : Option String}
  {pass : Pass}

/-- A pass is prepared over the base that it is given, and its session record is accepted. -/
theorem of_prepare (h : prepare env base directory user = .ok pass) :
    pass.base = base ∧ ∀ record, pass.session = some record → record.Accepted := by
  obtain ⟨d, -, h⟩ := bind_eq_ok.1 h
  obtain ⟨u, -, h⟩ := bind_eq_ok.1 h
  obtain ⟨session, hsession, h⟩ := bind_eq_ok.1 h
  obtain rfl := Except.ok.inj h
  exact ⟨rfl, fun record hrecord => SessionRecord.accepted_of_load (hsession.trans (congrArg _ hrecord))⟩

end Pass

namespace Program

/-! ## Stages -/

/-- The stages of a resolution, in the order in which they are gone through. -/
inductive Stage where
  | base
  | session
  | options
  | shipFiles
  | resolution
  | derivation
  | presentation
deriving DecidableEq, Repr

section
variable {env : Environment} {r : Request} {pass : Pass} {overlay : Overlay} {c : Configuration}
  {plan : Plan} {f : Failure}

/-- The base and the session record of a request have been read. -/
structure Prepares (env : Environment) (r : Request) (pass : Pass) : Prop where
  base : loadBase env (r.confDir.map Path.ofString) = .ok pass.base
  session : Pass.prepare env pass.base (r.propertiesDir.map Path.ofString) none = .ok pass

/-- A request has been resolved: its options and ship files have been read too, and all sources have been laid
over one another. -/
structure Resolves (env : Environment) (r : Request) (pass : Pass) (overlay : Overlay)
    (c : Configuration) : Prop where
  prepares : Prepares env r pass
  reads : Pass.overlay env r.options r.mode = .ok overlay
  resolves : ClusterPlan.resolve env.tolerance pass.base pass.session overlay = .ok c

/-- The plan of the resolved configuration has been derived. -/
def Plans (env : Environment) (r : Request) (plan : Plan) : Prop :=
  ∃ pass overlay c, Resolves env r pass overlay c ∧ Plan.ofConfiguration env c = .ok plan

/-- A plan in the form that is asked for. -/
def shown (env : Environment) (r : Request) (plan : Plan) : Except Failure String := do
  if r.asDocument then
    plan.document env.tolerance
  else
    plan.panel env.settings (← Console.width env)

/-- A stage fails after all stages before it have succeeded. -/
inductive FailsAt (env : Environment) (r : Request) : Stage → Failure → Prop
  | base {f : Failure} : loadBase env (r.confDir.map Path.ofString) = .error f → FailsAt env r .base f
  | session {base : Configuration} {f : Failure} :
      loadBase env (r.confDir.map Path.ofString) = .ok base →
      Pass.prepare env base (r.propertiesDir.map Path.ofString) none = .error f →
      FailsAt env r .session f
  | options {pass : Pass} {f : Failure} : Prepares env r pass →
      Overlay.ofOptions env.tolerance r.mode r.options = .error f → FailsAt env r .options f
  | shipFiles {pass : Pass} {o : Overlay} {f : Failure} : Prepares env r pass →
      Overlay.ofOptions env.tolerance r.mode r.options = .ok o → o.shipFiles ≠ [] →
      validateShipFiles env none o.shipFiles = .error f → FailsAt env r .shipFiles f
  | resolution {pass : Pass} {overlay : Overlay} {f : Failure} : Prepares env r pass →
      Pass.overlay env r.options r.mode = .ok overlay →
      ClusterPlan.resolve env.tolerance pass.base pass.session overlay = .error f →
      FailsAt env r .resolution f
  | derivation {pass : Pass} {overlay : Overlay} {c : Configuration} {f : Failure} :
      Resolves env r pass overlay c → Plan.ofConfiguration env c = .error f →
      FailsAt env r .derivation f
  | presentation {plan : Plan} {f : Failure} : Plans env r plan → shown env r plan = .error f →
      FailsAt env r .presentation f

/-- Options and ship files fail one after the other. -/
theorem FailsAt.of_overlay (hp : Prepares env r pass)
    (h : Pass.overlay env r.options r.mode = .error f) : ∃ stage, FailsAt env r stage f := by
  obtain h | ⟨o, ho, h⟩ := bind_eq_error.1 h
  · exact ⟨_, .options hp h⟩
  · by_cases hfiles : o.shipFiles.isEmpty = true
    · rw [if_pos hfiles] at h
      cases h
    · rw [if_neg hfiles] at h
      obtain h | ⟨files, -, h⟩ := bind_eq_error.1 h
      · exact ⟨_, .shipFiles hp ho (by simpa using hfiles) h⟩
      · cases h

/-- The session record takes part in a resolution: it is there, and the command line names no cluster. -/
structure Applies (pass : Pass) (overlay : Overlay) (record : SessionRecord) : Prop where
  loaded : pass.session = some record
  unnamed : overlay.setsClusterId = false

/-- The session record of a resolution is accepted. -/
theorem Resolves.accepted (h : Resolves env r pass overlay c) {record : SessionRecord}
    (hr : pass.session = some record) : record.Accepted :=
  (Pass.of_prepare h.prepares.session).2 record hr

/-- A session record that takes part names the application of the resolved configuration. -/
theorem Resolves.clusterId_eq (h : Resolves env r pass overlay c) {record : SessionRecord}
    (ha : Applies pass overlay record) : c.clusterId env.tolerance = .ok (some record.clusterId) := by
  obtain ⟨S, T, hS, hT, hlayered, -⟩ := layered_of_resolve h.resolves
  obtain ⟨T', hT', hget, -⟩ := overlay.exists_toConfiguration env.tolerance
  obtain rfl := Except.ok.inj (hT'.symm.trans hT)
  rcases hlayered.named (fun _ => h.accepted) (Pass.sound_of_overlay h.reads) hS hget with
    ⟨hsets, -⟩ | ⟨-, record', s, hrecord, hs, hparse⟩ | ⟨-, hnone, -⟩
  · cases ha.unnamed.symm.trans hsets
  · cases ha.loaded.symm.trans hrecord
    exact Configuration.clusterId_of_get? hs hparse
  · cases ha.loaded.symm.trans hnone

/-- A request is resolved in one way only. -/
theorem Resolves.unique (h : Resolves env r pass overlay c) {pass' : Pass} {overlay' : Overlay}
    {c' : Configuration} (h' : Resolves env r pass' overlay' c') :
    pass' = pass ∧ overlay' = overlay ∧ c' = c := by
  have hbase : pass'.base = pass.base := Except.ok.inj (h'.prepares.base.symm.trans h.prepares.base)
  obtain rfl : pass' = pass := by
    have hsession := h'.prepares.session
    rw [hbase] at hsession
    exact Except.ok.inj (hsession.symm.trans h.prepares.session)
  obtain rfl : overlay' = overlay := Except.ok.inj (h'.reads.symm.trans h.reads)
  exact ⟨rfl, rfl, Except.ok.inj (h'.resolves.symm.trans h.resolves)⟩

end

end Program

end ClusterPlan
