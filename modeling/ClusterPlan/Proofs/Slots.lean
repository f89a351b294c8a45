import ClusterPlan.Proofs.Cluster
import ClusterPlan.Proofs.Precedence

/-!
# Slots

The shape of a cluster has the slots that the last source names, and one if no source names any. Only the
option of the command line is checked to be at least one (`Overlay.one_le_of_readSlots`); a base, a session
record and an override may name any number. So a cluster has a slot exactly when the number that decides is
not one of these, or is at least one itself (`slots_of_resolve`), and with an override it may have none
(`exists_no_slots_of_override`).
-/

namespace ClusterPlan

section
variable {tolerance : Tolerance} {base S T D c : Configuration} {mode : Mode}
  {spec : ClusterSpecification}

/-- The number that a value is. -/
def Value.int? : Value → Option Int
  | .int i => some i
  | _ => none

namespace Configuration

/-- The number of slots that is stored. -/
def slots? (c : Configuration) : Option Int :=
  (c.get? ConfigOption.slots.key).bind Value.int?

/-- Under the key of the slots there is a number or nothing. -/
theorem get?_slots (c : Configuration) :
    c.get? ConfigOption.slots.key = c.slots?.map .int := by
  rw [slots?]
  cases hv : c.get? ConfigOption.slots.key with
  | none => rfl
  | some v =>
    have h := holds_of_get? (by simp [ConfigOption.registry]) hv
    cases v with
    | int i => rfl
    | _ => cases h

/-- The shape of a cluster has the slots that are stored, or else one. -/
theorem slots_of_specification (h : c.specification = .ok spec) : spec.slots = c.slots?.getD 1 := by
  obtain ⟨master, -, h⟩ := bind_eq_ok.1 h
  obtain ⟨worker, -, h⟩ := bind_eq_ok.1 h
  have hvalue : c.value? .slots = some (.int (c.slots?.getD 1)) := by
    rw [value?, get?_slots]
    cases c.slots? <;> rfl
  simp only [hvalue] at h
  obtain ⟨⟨⟩, -, h⟩ := bind_eq_ok.1 h
  obtain ⟨⟨⟩, -, h⟩ := bind_eq_ok.1 h
  obtain ⟨⟨⟩, -, h⟩ := bind_eq_ok.1 h
  cases h
  rfl

end Configuration

/-- The slots of four sources are those of the last one that names any. -/
theorem Layered.slots? (h : Layered base S T D mode c) :
    c.slots? = ((D.slots?.or T.slots?).or S.slots?).or base.slots? := by
  have hget := h.get? ConfigOption.slots.key
  rw [if_neg (by decide), Option.or_none] at hget
  rw [Configuration.slots?, hget]
  simp only [Configuration.get?_slots, ← Option.map_or]
  cases ((D.slots?.or T.slots?).or S.slots?).or base.slots? <;> rfl

namespace Overlay

/-- The options of an overlay set the slots that the option of the command line names. -/
theorem slots?_of_toConfiguration {o : Overlay} (h : o.toConfiguration tolerance = .ok T) :
    T.slots? = o.slots := by
  have hget := Choices.get?_of_mem o.distinct_choices (values_of_toConfiguration h) (o := .slots)
    (v := o.slots.map .int) (by simp [choices])
  rw [Configuration.slots?, hget]
  cases o.slots <;> rfl

end Overlay

/-- The number of slots that decides without a check: the one of the overrides, or, if there is none and no
option names any either, the one of the session record or of the base. -/
def uncheckedSlots? (base S D : Configuration) (option : Option Int) : Option Int :=
  D.slots?.or (if option.isSome then none else S.slots?.or base.slots?)

/-- If the option of the command line is at least one, the slots that are decided on are at least one exactly
when those without a check are. -/
theorem one_le_slots_iff {option : Option Int} (h : ∀ n, option = some n → 1 ≤ n) :
    1 ≤ (((D.slots?.or option).or S.slots?).or base.slots?).getD 1 ↔
      ∀ n, uncheckedSlots? base S D option = some n → 1 ≤ n := by
  rw [uncheckedSlots?]
  cases hD : D.slots? with
  | some n => simp
  | none =>
    cases option with
    | some n => simpa using h n rfl
    | none =>
      cases S.slots? with
      | some n => simp
      | none => cases base.slots? <;> simp

/-- **The slots of a cluster** are those of the last source that names any, and one if none does. An option of
the command line is accepted only if it names at least one. So there is a slot exactly when the number that
decides is this one or at least one: one from the base, the session record or an override is used as it is. -/
theorem slots_of_resolve {session : Option SessionRecord} {options : Overlay.Options} {o : Overlay}
    {files : List String} (ho : Overlay.ofOptions tolerance mode options = .ok o)
    (hc : resolve tolerance base session { o with shipFiles := files } = .ok c)
    (hspec : c.specification = .ok spec) :
    ∃ S, sessionLayer tolerance session o = .ok S ∧
      spec.slots = (((o.dynamic.slots?.or o.slots).or S.slots?).or base.slots?).getD 1 ∧
      (∀ n, o.slots = some n → 1 ≤ n) ∧
      (1 ≤ spec.slots ↔ ∀ n, uncheckedSlots? base S o.dynamic o.slots = some n → 1 ≤ n) := by
  obtain ⟨-, hread, -⟩ := Overlay.ofOptions_eq_ok_iff.1 ho
  have hoption (n : Int) (hn : o.slots = some n) : 1 ≤ n :=
    (Overlay.one_le_of_readSlots (hn ▸ hread.slots)).1
  obtain ⟨S, T, hS, hT, hlayered, -⟩ := layered_of_resolve hc
  have hslots : spec.slots = (((o.dynamic.slots?.or o.slots).or S.slots?).or base.slots?).getD 1 := by
    rw [Configuration.slots_of_specification hspec, hlayered.slots?,
      Overlay.slots?_of_toConfiguration hT]
  refine ⟨S, hS, hslots, hoption, ?_⟩
  rw [hslots]
  exact one_le_slots_iff hoption

/-- An option that names two slots, over a base that names three and a session record that names none. -/
theorem slots_of_resolve_of_option : ∃ base o c spec,
    Configuration.ofValues .standard (.ofList [("taskmanager.numberOfTaskSlots", .int 3)]) = .ok base ∧
    Overlay.ofOptions .standard .run (.ofList [("slots", .str " 2")]) = .ok o ∧
    resolve .standard base (some ⟨⟨1, 1⟩, none, none, .single "taskmanager.numberOfTaskSlots" "0"⟩) o =
      .ok c ∧
    c.specification = .ok spec ∧ spec.slots = 2 := by
  let r : SessionRecord := ⟨⟨1, 1⟩, none, none, .single "taskmanager.numberOfTaskSlots" "0"⟩
  have hrun : ((Configuration.ofValues .standard
      (.ofList [("taskmanager.numberOfTaskSlots", .int 3)])).toOption.bind fun base =>
        (Overlay.ofOptions .standard .run (.ofList [("slots", .str " 2")])).toOption.bind fun o =>
          (resolve .standard base (some r) o).toOption.bind fun c =>
            c.specification.toOption).isSome := by
    decide +kernel
  obtain ⟨spec, hrun⟩ := Option.isSome_iff_exists.1 hrun
  obtain ⟨base, hbase, hrun⟩ := Option.bind_eq_some_iff.1 hrun
  obtain ⟨o, ho, hrun⟩ := Option.bind_eq_some_iff.1 hrun
  obtain ⟨c, hc, hspec⟩ := Option.bind_eq_some_iff.1 hrun
  rw [toOption_eq_some_iff] at hbase ho hc hspec
  obtain ⟨S, -, hslots, -, -⟩ := slots_of_resolve ho hc hspec
  obtain ⟨-, hread, -⟩ := Overlay.ofOptions_eq_ok_iff.1 ho
  have hoption : o.slots = some 2 := by
    have h : Overlay.readSlots .standard (.ofList [("slots", .str " 2")]) = .ok (some 2) := by
      decide +kernel
    exact Except.ok.inj (hread.slots.symm.trans h)
  have hitems : Overlay.readList .standard (.ofList [("slots", .str " 2")]) .dynamic = .ok [] := rfl
  have hoverride : o.dynamic.slots? = none := by
    rw [Configuration.slots?, hread.get?_dynamic hitems nofun]
    rfl
  rw [hoption, hoverride] at hslots
  exact ⟨base, o, c, spec, hbase, ho, hc, hspec, hslots⟩

/-- An override of no slots is accepted and gives a cluster without slots. -/
theorem exists_no_slots_of_override : ∃ o c,
    Overlay.ofOptions .standard .run
      (.ofList [("dynamic_properties", .list [.str "taskmanager.numberOfTaskSlots=0"])]) = .ok o ∧
    resolve .standard .empty none o = .ok c ∧
    c.specification = .ok ⟨1600, 1728, 0⟩ := by
  have hrun : ((Overlay.ofOptions .standard .run (.ofList [("dynamic_properties",
      .list [.str "taskmanager.numberOfTaskSlots=0"])])).toOption.bind fun o =>
        (resolve .standard .empty none o).toOption.bind fun c => c.specification.toOption) =
          some ⟨1600, 1728, 0⟩ := by
    decide +kernel
  obtain ⟨o, ho, hrun⟩ := Option.bind_eq_some_iff.1 hrun
  obtain ⟨c, hc, hspec⟩ := Option.bind_eq_some_iff.1 hrun
  rw [toOption_eq_some_iff] at ho hc hspec
  exact ⟨o, c, ho, hc, hspec⟩

end

end ClusterPlan
