import ClusterPlan.Overlay
import ClusterPlan.Proofs.Conversion

/-!
# Configurations that are set option by option

An overlay and a session record set one option after another, some of which have no value. `Choices` is
such a list of options and values, and `Choices.apply` is what setting them comes to. Values of the types
of their options can always be set, and the outcome has them in the order of the list
(`Choices.exists_apply`). When no option occurs twice, each has the value that was chosen
(`Choices.get?_of_mem`).
-/

namespace ClusterPlan

/-- Options with the values that are chosen for them, if any. -/
abbrev Choices := List (ConfigOption × Option Value)

namespace Choices

/-- The values that are there, by key. -/
def entries (cs : Choices) : List (String × Value) :=
  cs.filterMap fun choice => choice.2.map (choice.1.key, ·)

/-- Every value is of the type of its option, which is a known one. -/
def Hold (cs : Choices) : Prop :=
  ∀ o v, (o, some v) ∈ cs → o ∈ ConfigOption.registry ∧ o.type.holds v = true

/-- No option occurs twice. -/
def Distinct (cs : Choices) : Prop :=
  (cs.map fun choice => choice.1.key).Nodup

/-- The configuration with the chosen values set in order. -/
def apply (tolerance : Tolerance) (cs : Choices) (c : Configuration) : Except Failure Configuration :=
  cs.foldlM (fun c choice => Overlay.setIfGiven tolerance choice.1 choice.2 c) c

variable {tolerance : Tolerance}

/-- Values of the types of their options can be set, and come to stand in order. -/
theorem exists_apply {cs : Choices} (h : cs.Hold) (c : Configuration) :
    ∃ d, cs.apply tolerance c = .ok d ∧ d.values = c.values.putAll cs.entries := by
  induction cs generalizing c with
  | nil => exact ⟨c, rfl, rfl⟩
  | cons choice cs ih =>
    obtain ⟨o, v⟩ := choice
    have hcs : Hold cs := fun o v hm => h o v (List.mem_cons_of_mem _ hm)
    rw [apply, List.foldlM_cons, entries]
    cases v with
    | none => exact ih hcs c
    | some v =>
      have ⟨ho, hv⟩ := h o v List.mem_cons_self
      have hconv : Configuration.convertEntry tolerance o.key v = .ok v :=
        Configuration.convertEntry_of_holds ho hv
      obtain ⟨c', hc', hval⟩ := Configuration.exists_set c hconv
      obtain ⟨d, hd, hdv⟩ := ih hcs c'
      refine ⟨d, ?_, ?_⟩
      · show Overlay.setIfGiven tolerance o (some v) c >>= apply tolerance cs = .ok d
        rw [Overlay.setIfGiven, hc']
        exact hd
      · rw [hdv, hval]
        rfl

theorem keys_entries_sublist (cs : Choices) :
    (cs.entries.map Prod.fst).Sublist (cs.map fun choice => choice.1.key) := by
  induction cs with
  | nil => exact .slnil
  | cons choice cs ih =>
    obtain ⟨o, v⟩ := choice
    cases v with
    | none => exact ih.cons _
    | some v => exact ih.cons_cons _

/-- When no option occurs twice, what is found under its key is its own value. -/
theorem lookup_entries {cs : Choices} (hd : cs.Distinct) {o : ConfigOption} {v : Option Value}
    (h : (o, v) ∈ cs) : Ordered.lookup o.key cs.entries = v := by
  induction cs with
  | nil => cases h
  | cons choice cs ih =>
    have ⟨hnot, hcs⟩ := List.nodup_cons.1 hd
    rcases List.mem_cons.1 h with rfl | hm
    · have hnone : Ordered.lookup o.key (entries cs) = none :=
        Ordered.lookup_eq_none_iff.2 fun hm => hnot ((keys_entries_sublist cs).subset hm)
      cases v with
      | none => exact hnone
      | some v => simp [entries, Ordered.lookup]
    · obtain ⟨o', v'⟩ := choice
      have hne : o'.key ≠ o.key := fun e => hnot (List.mem_map.2 ⟨(o, v), hm, e.symm⟩)
      cases v' with
      | none => exact ih hcs hm
      | some v' =>
        rw [entries, List.filterMap_cons, Option.map_some, Ordered.lookup, if_neg hne]
        exact ih hcs hm

/-- When no option occurs twice, each has the value that was chosen for it, or else the one it had. -/
theorem get?_of_mem {cs : Choices} (hd : cs.Distinct) {c d : Configuration}
    (h : d.values = c.values.putAll cs.entries) {o : ConfigOption} {v : Option Value}
    (hm : (o, v) ∈ cs) : d.get? o.key = v.or (c.get? o.key) := by
  have hn : (cs.entries.map Prod.fst).Nodup := (keys_entries_sublist cs).nodup hd
  rw [Configuration.get?, h, Ordered.get?_putAll, Ordered.lookup_reverse _ hn, lookup_entries hd hm]
  rfl

/-- Choosing a value for one more option changes the outcome under its key only. -/
theorem get?_of_choose {front back : Choices} {o : ConfigOption} {v : Value} {c d d' : Configuration}
    (hd : Distinct (front ++ (o, some v) :: back))
    (h : d.values = c.values.putAll (entries (front ++ (o, none) :: back)))
    (h' : d'.values = c.values.putAll (entries (front ++ (o, some v) :: back))) (k : String) :
    d'.get? k = if o.key = k then some v else d.get? k := by
  have hback : o.key ∉ (entries back).map Prod.fst := by
    rw [Distinct, List.map_append, List.nodup_append] at hd
    have ⟨hnot, _⟩ := List.nodup_cons.1 hd.2.1
    exact fun hm => hnot ((keys_entries_sublist back).subset hm)
  have hnone : entries (front ++ (o, none) :: back) = entries front ++ entries back := by
    rw [entries, List.filterMap_append]
    rfl
  have hsome : entries (front ++ (o, some v) :: back) = entries front ++ (o.key, v) :: entries back := by
    rw [entries, List.filterMap_append]
    rfl
  rw [Configuration.get?, Configuration.get?, h, h', hnone, hsome]
  exact Ordered.get?_putAll_insert c.values v hback k

/-- What a configuration has after some options were set was chosen for one of them, or it was there. -/
theorem mem_or_of_get? {cs : Choices} {c d : Configuration} (h : d.values = c.values.putAll cs.entries)
    {key : String} {v : Value} (hv : d.get? key = some v) :
    (∃ o, (o, some v) ∈ cs ∧ o.key = key) ∨ c.get? key = some v := by
  rw [Configuration.get?, h, Ordered.get?_putAll] at hv
  rcases Option.or_eq_some_iff.1 hv with hv | ⟨-, hv⟩
  · have he := List.mem_reverse.1 (Ordered.mem_of_lookup hv)
    obtain ⟨⟨o, w⟩, hm, hw⟩ := List.mem_filterMap.1 he
    obtain ⟨u, rfl, hu⟩ := Option.map_eq_some_iff.1 hw
    obtain ⟨hkey, rfl⟩ := Prod.mk.inj hu
    exact .inl ⟨o, hm, hkey⟩
  · exact .inr hv

/-- Setting values of the types of their options lets no value contain itself. -/
theorem finite {cs : Choices} {c d : Configuration} (hcs : cs.Hold)
    (h : d.values = c.values.putAll cs.entries) (hc : c.Finite) : d.Finite := by
  intro key v hv
  rcases mem_or_of_get? h hv with ⟨o, hm, -⟩ | hv
  · exact ConfigOption.isFinite_of_holds (hcs o v hm).2
  · exact hc key v hv

/-- Setting writable values leaves a configuration writable. -/
theorem writable {cs : Choices} {c d : Configuration} (h : d.values = c.values.putAll cs.entries)
    (hc : c.Writable) (hcs : ∀ o v, (o, some v) ∈ cs → v.isWritable = true) : d.Writable := by
  intro key v hv
  rcases mem_or_of_get? h hv with ⟨o, hm, -⟩ | hv
  · exact hcs o v hm
  · exact hc key v hv

end Choices

end ClusterPlan
