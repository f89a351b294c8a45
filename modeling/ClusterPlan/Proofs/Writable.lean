import ClusterPlan.Configuration
import ClusterPlan.Proofs.Ordered

/-!
# Values that can be written

A whole number with too many digits has no text, and so has no value that holds one. `Value.isWritable`
says of a value that its numbers are within the limit, without writing anything; `Value.isOk_quoted` is
the fact behind it: a value can be shown inside a collection exactly when it is writable. Two values that
contain themselves may not be told apart in the end, but a value that does not can be compared with any other
(`Value.isEndless_of_isFinite`, `Value.isEndless_isFinite`). A configuration whose values are all writable
(`Configuration.Writable`) and can be compared with those that override them (`Configuration.Comparable`) can be
traced.
-/

namespace ClusterPlan

/-- What follows a value that is there goes on with it. -/
theorem ok_bind {ε α β : Type} (a : α) (g : α → Except ε β) : (Except.ok a >>= g) = g a := rfl

/-- Whether a sequence of two computations succeeds, if the second one does so always or never. -/
theorem isOk_bind {ε α β : Type} (x : Except ε α) (f : α → Except ε β) {b : Bool}
    (h : ∀ a, (f a).isOk = b) : (x >>= f).isOk = (x.isOk && b) := by
  cases x with
  | error e => rfl
  | ok a => simpa [bind, Except.bind, Except.isOk, Except.toBool] using h a

/-- A computation that succeeds gives a value. -/
theorem isOk_iff {ε α : Type} {x : Except ε α} : x.isOk = true ↔ ∃ a, x = .ok a := by
  cases x <;> simp [Except.isOk, Except.toBool]

/-- The value of a computation as an option. -/
theorem toOption_eq_some_iff {ε α : Type} {x : Except ε α} {a : α} :
    x.toOption = some a ↔ x = .ok a := by
  cases x <;> simp [Except.toOption]

/-- A computation whose value does not matter goes through when there is one. -/
theorem discard_eq_ok {α : Type} {x : Except Failure α} : discard x = .ok () ↔ ∃ a, x = .ok a := by
  cases x with
  | error e => exact ⟨nofun, nofun⟩
  | ok a => exact ⟨fun _ => ⟨a, rfl⟩, fun _ => rfl⟩

/-- A check of some values goes through when it does for each of them. -/
theorem forM_eq_ok {α : Type} {as : List α} {f : α → Except Failure Unit} :
    forM as f = .ok () ↔ ∀ a ∈ as, f a = .ok () := by
  induction as with
  | nil => exact ⟨fun _ => nofun, fun _ => rfl⟩
  | cons a as ih =>
    simp only [List.forM_cons, bind_eq_ok, List.forall_mem_cons]
    exact ⟨fun ⟨⟨⟩, ha, h⟩ => ⟨ha, ih.1 h⟩, fun ⟨ha, h⟩ => ⟨⟨⟩, ha, ih.2 h⟩⟩

/-- Items are read one by one. -/
theorem mapM_eq_ok_iff {α β : Type} {as : List α} {bs : List β} {f : α → Except Failure β} :
    as.mapM f = .ok bs ↔ List.Forall₂ (fun a b => f a = .ok b) as bs := by
  induction as generalizing bs with
  | nil =>
    rw [List.forall₂_nil_left_iff]
    exact ⟨fun h => (Except.ok.inj h).symm, fun h => h ▸ rfl⟩
  | cons a as ih =>
    simp only [List.mapM_cons, bind_eq_ok, List.forall₂_cons_left_iff, ih]
    constructor
    · rintro ⟨b, hb, bs', hbs, h⟩
      exact ⟨b, bs', hb, hbs, (Except.ok.inj h).symm⟩
    · rintro ⟨b, bs', hb, hbs, rfl⟩
      exact ⟨b, hb, bs', hbs, rfl⟩

/-- What stands in the second of two related lists is related to something in the first. -/
theorem exists_mem_of_forall₂ {α β : Type} {R : α → β → Prop} {as : List α} {bs : List β}
    (h : List.Forall₂ R as bs) {b : β} (hb : b ∈ bs) : ∃ a ∈ as, R a b := by
  induction h with
  | nil => cases hb
  | cons hr _ ih =>
    rcases List.mem_cons.1 hb with rfl | hb
    · exact ⟨_, List.mem_cons_self, hr⟩
    · obtain ⟨a, ha, hab⟩ := ih hb
      exact ⟨a, List.mem_cons_of_mem _ ha, hab⟩

/-- A number is written exactly when it is short enough. -/
theorem isOk_writeInt (i : Int) : (writeInt i).isOk = Text.isWritable i := by
  unfold writeInt
  cases Text.isWritable i <;> rfl

namespace Value

mutual

/-- Whether every whole number in a value can be written, the bytes of memory sizes included. A value
that contains itself is known by its text, which it has when the numbers in it can be written. -/
def isWritable : Value → Bool
  | int i => Text.isWritable i
  | memory m => Text.isWritable m.bytes
  | list items => itemsWritable items
  | tuple items => itemsWritable items
  | set items => itemsWritable items
  | mapping entries => entriesWritable entries
  | knot _ text _ => text.isOk
  | null | bool _ | float _ | str _ | duration _ | moment _ | bytes _ => true
termination_by structural v => v

/-- Whether every whole number in some values can be written. -/
def itemsWritable : List Value → Bool
  | [] => true
  | v :: vs => isWritable v && itemsWritable vs
termination_by structural vs => vs

/-- Whether every whole number in some entries can be written. -/
def entriesWritable : List (Value × Value) → Bool
  | [] => true
  | e :: es => entryWritable e && entriesWritable es
termination_by structural es => es

def entryWritable : Value × Value → Bool
  | (k, v) => isWritable k && isWritable v
termination_by structural e => e

end

mutual

/-- A value can be shown inside a collection exactly when the numbers in it can be written. -/
theorem isOk_quoted : ∀ v : Value, v.quoted.isOk = v.isWritable
  | int i => isOk_writeInt i
  | memory m => by
    rw [quoted, isOk_bind (b := true) _ _ fun _ => rfl, Bool.and_true, isOk_writeInt, isWritable]
  | list items | tuple items => by
    rw [quoted, isOk_bind (b := true) _ _ fun _ => rfl, Bool.and_true, isOk_quotedItems, isWritable]
  | set [] => rfl
  | set (v :: vs) => by
    rw [quoted, if_neg (by simp), isOk_bind (b := true) _ _ fun _ => rfl, Bool.and_true,
      isOk_quotedItems, isWritable]
  | mapping entries => by
    rw [quoted, isOk_bind (b := true) _ _ fun _ => rfl, Bool.and_true, isOk_quotedEntries, isWritable]
  | null | bool _ | float _ | str _ | duration _ | moment _ | bytes _ | knot .. => rfl
termination_by structural v => v

/-- Items can be shown exactly when the numbers in them can be written. -/
theorem isOk_quotedItems : ∀ vs : List Value, (quotedItems vs).isOk = itemsWritable vs
  | [] => rfl
  | v :: vs => by
    rw [quotedItems, isOk_bind (b := itemsWritable vs), isOk_quoted v, itemsWritable]
    intro s
    rw [isOk_bind (b := true) _ _ fun _ => rfl, Bool.and_true, isOk_quotedItems vs]
termination_by structural vs => vs

/-- So can entries. -/
theorem isOk_quotedEntries : ∀ es : List (Value × Value),
    (quotedEntries es).isOk = entriesWritable es
  | [] => rfl
  | e :: es => by
    rw [quotedEntries, isOk_bind (b := entriesWritable es), isOk_quotedEntry e, entriesWritable]
    intro s
    rw [isOk_bind (b := true) _ _ fun _ => rfl, Bool.and_true, isOk_quotedEntries es]
termination_by structural es => es

/-- And so can a single one, key and value. -/
theorem isOk_quotedEntry : ∀ e : Value × Value, (quotedEntry e).isOk = entryWritable e
  | (k, v) => by
    rw [quotedEntry, isOk_bind (b := isWritable v), isOk_quoted k, entryWritable]
    intro s
    rw [isOk_bind (b := true) _ _ fun _ => rfl, Bool.and_true, isOk_quoted v]
termination_by structural e => e

end

/-- Tracing a value goes through exactly when the value is writable. -/
theorem discard_quoted_eq_ok {v : Value} : discard v.quoted = .ok () ↔ v.isWritable = true := by
  rw [discard_eq_ok, ← isOk_iff, isOk_quoted]

/-- A writable value has a text inside a collection. -/
theorem exists_quoted {v : Value} (h : v.isWritable = true) : ∃ s, v.quoted = .ok s :=
  isOk_iff.1 ((isOk_quoted v).trans h)

/-- Items are writable if each of them is. -/
theorem itemsWritable_eq_true_iff {vs : List Value} :
    itemsWritable vs = true ↔ ∀ v ∈ vs, v.isWritable = true := by
  induction vs with
  | nil => simp [itemsWritable]
  | cons v vs ih => simp [itemsWritable, ih]

/-- Texts can be written. -/
theorem isWritable_texts (ss : List String) : (list (ss.map .str)).isWritable = true := by
  rw [isWritable, itemsWritable_eq_true_iff, List.forall_mem_map]
  exact fun _ _ => rfl

/-- Entries are writable if each key and each value is. -/
theorem entriesWritable_eq_true_iff {es : List (Value × Value)} :
    entriesWritable es = true ↔ ∀ e ∈ es, e.1.isWritable = true ∧ e.2.isWritable = true := by
  induction es with
  | nil => simp [entriesWritable]
  | cons e es ih =>
    obtain ⟨k, v⟩ := e
    simp [entriesWritable, entryWritable, ih]

/-! ## Comparisons that end -/

mutual

/-- Comparing a value that does not contain itself ends. -/
theorem isEndless_of_isFinite : ∀ {v : Value}, v.isFinite = true → ∀ w, v.isEndless w = false
  | list items, h, w => by
    have hitems : itemsFinite items = true := h
    rw [isEndless]
    split
    · rw [itemsEndless_of_itemsFinite hitems, Bool.and_false]
    · rw [hitems, Bool.not_true, Bool.and_false]
  | tuple items, h, w => by
    have hitems : itemsFinite items = true := h
    rw [isEndless.eq_def]
    dsimp only
    split
    · exact itemsEndless_of_itemsFinite hitems _
    · rw [hitems, Bool.not_true, Bool.and_false]
  | mapping entries, h, w => by
    have hentries : entriesFinite entries = true := h
    rw [isEndless.eq_def]
    dsimp only
    split
    · rw [entriesEndless_of_entriesFinite hentries, Bool.and_false]
    · rw [hentries, Bool.not_true, Bool.and_false]
  | null, _, _ | bool _, _, _ | int _, _, _ | float _, _, _ | str _, _, _ | memory _, _, _ | duration _, _, _
  | moment _, _, _ | bytes _, _, _ | set _, _, _ => rfl
termination_by structural v => v

/-- Comparing items that do not contain themselves ends. -/
theorem itemsEndless_of_itemsFinite : ∀ {vs : List Value}, itemsFinite vs = true →
    ∀ ws, itemsEndless vs ws = false
  | [], _, _ => rfl
  | _ :: _, _, [] => rfl
  | v :: vs, h, w :: ws => by
    obtain ⟨hv, hvs⟩ := Bool.and_eq_true_iff.1 h
    rw [itemsEndless, isEndless_of_isFinite hv, itemsEndless_of_itemsFinite hvs, Bool.and_false, Bool.or_false]
termination_by structural vs => vs

/-- Comparing entries whose values do not contain themselves ends. -/
theorem entriesEndless_of_entriesFinite : ∀ {es : List (Value × Value)}, entriesFinite es = true →
    ∀ fs, entriesEndless es fs = false
  | [], _, _ => rfl
  | e :: es, h, fs => by
    obtain ⟨he, hes⟩ := Bool.and_eq_true_iff.1 h
    rw [entriesEndless]
    split
    · rw [entryEndless_of_entryFinite he, entriesEndless_of_entriesFinite hes, Bool.and_false, Bool.or_false]
    · rfl
termination_by structural es => es

/-- Comparing one of these values ends. -/
theorem entryEndless_of_entryFinite : ∀ {e : Value × Value}, entryFinite e = true →
    ∀ w, entryEndless e w = false
  | (_, _), h, w => isEndless_of_isFinite h w
termination_by structural e => e

end

/-- A finite list has finite items. -/
theorem itemsFinite_of_listItems? {w : Value} {ws : List Value} (hw : w.isFinite = true)
    (h : w.listItems? = some ws) : itemsFinite ws = true := by
  unfold listItems? at h
  split at h
  · obtain rfl := Option.some.inj h
    exact hw
  · cases hw
  · cases h

/-- A value that does not contain itself is known by more than its text. -/
theorem isHidden_of_isFinite {w : Value} (hw : w.isFinite = true) : w.isHidden = false := by
  cases w with
  | knot => cases hw
  | _ => rfl

/-- Items are finite if each of them is. -/
theorem itemsFinite_eq_true_iff {vs : List Value} :
    itemsFinite vs = true ↔ ∀ v ∈ vs, v.isFinite = true := by
  induction vs with
  | nil => simp [itemsFinite]
  | cons v vs ih => simp [itemsFinite, ih]

/-- Entries are finite if each of their values is. -/
theorem entriesFinite_eq_true_iff {es : List (Value × Value)} :
    entriesFinite es = true ↔ ∀ e ∈ es, e.2.isFinite = true := by
  induction es with
  | nil => simp [entriesFinite]
  | cons e es ih =>
    obtain ⟨k, v⟩ := e
    simp [entriesFinite, entryFinite, ih]

mutual

/-- Comparing with a value that does not contain itself ends. -/
theorem isEndless_isFinite : ∀ (v : Value) {w : Value}, w.isFinite = true → v.isEndless w = false
  | list items, w, hw | knot true _ items, w, hw => by
    rw [isEndless]
    split
    · next hws => rw [itemsEndless_itemsFinite items (itemsFinite_of_listItems? hw hws), Bool.and_false]
    · simp only [isHidden_of_isFinite hw, Bool.false_and]
  | tuple items, w, hw => by
    rw [isEndless.eq_def]
    dsimp only
    split
    · exact itemsEndless_itemsFinite items hw
    · rw [isHidden_of_isFinite hw, Bool.false_and]
  | mapping entries, w, hw => by
    rw [isEndless.eq_def]
    dsimp only
    split
    · rw [entriesEndless_entriesFinite entries hw, Bool.and_false]
    · rw [isHidden_of_isFinite hw, Bool.false_and]
  | knot false _ _, w, hw => by rw [isEndless, hw, Bool.not_true]
  | null, _, _ | bool _, _, _ | int _, _, _ | float _, _, _ | str _, _, _ | memory _, _, _ | duration _, _, _
  | moment _, _, _ | bytes _, _, _ | set _, _, _ => rfl
termination_by structural v => v

/-- Comparing items with finite ones ends. -/
theorem itemsEndless_itemsFinite : ∀ (vs : List Value) {ws : List Value}, itemsFinite ws = true →
    itemsEndless vs ws = false
  | [], _, _ => rfl
  | _ :: _, [], _ => rfl
  | v :: vs, w :: ws, h => by
    obtain ⟨hw, hws⟩ := Bool.and_eq_true_iff.1 h
    rw [itemsEndless, isEndless_isFinite v hw, itemsEndless_itemsFinite vs hws, Bool.and_false, Bool.or_false]
termination_by structural vs => vs

/-- Comparing entries with finite ones ends. -/
theorem entriesEndless_entriesFinite : ∀ (es : List (Value × Value)) {fs : List (Value × Value)},
    entriesFinite fs = true → entriesEndless es fs = false
  | [], _, _ => rfl
  | e :: es, fs, h => by
    rw [entriesEndless]
    split
    · next f hf =>
      have hfinite : f.2.isFinite = true := entriesFinite_eq_true_iff.1 h f (List.mem_of_find?_eq_some hf)
      rw [entryEndless_isFinite e hfinite, entriesEndless_entriesFinite es h, Bool.and_false, Bool.or_false]
    · rfl
termination_by structural es => es

/-- Comparing the value of an entry with a finite one ends. -/
theorem entryEndless_isFinite : ∀ (e : Value × Value) {w : Value}, w.isFinite = true →
    entryEndless e w = false
  | (_, v), _, h => isEndless_isFinite v h
termination_by structural e => e

end

end Value

namespace Configuration

/-- Every whole number in the values of a configuration can be written. -/
def Writable (c : Configuration) : Prop :=
  ∀ key v, c.get? key = some v → v.isWritable = true

/-- A configuration can be shown exactly when it is writable. -/
theorem writable_iff {c : Configuration} : c.Writable ↔ ∃ s, c.quoted = .ok s := by
  have hq : c.quoted.isOk = (Value.ofEntries c.entries).isWritable := by
    rw [quoted, isOk_bind (b := true) _ _ fun _ => rfl, Bool.and_true, Value.isOk_quoted]
  have he : (Value.ofEntries c.entries).isWritable = true ↔
      ∀ e ∈ c.entries, e.2.isWritable = true := by
    rw [Value.ofEntries, Value.isWritable, Value.entriesWritable_eq_true_iff, List.forall_mem_map]
    exact forall₂_congr fun e _ => and_iff_right rfl
  rw [← isOk_iff, hq, he]
  exact ⟨fun h e hm => h e.1 e.2 (Ordered.get?_eq_some_iff.2 hm),
    fun h key v hv => h (key, v) (Ordered.get?_eq_some_iff.1 hv)⟩

/-- No value of a configuration contains itself. -/
def Finite (c : Configuration) : Prop :=
  ∀ key v, c.get? key = some v → v.isFinite = true

/-- Comparing the values of a configuration with others under the same keys ends: under no key both contain
themselves, but for a difference that is found before. -/
def Comparable (c : Configuration) (es : List (String × Value)) : Prop :=
  ∀ e ∈ es, ∀ old, c.get? e.1 = some old → old.isEndless e.2 = false

/-- Nothing in the empty configuration contains itself. -/
theorem finite_empty : empty.Finite :=
  fun _ _ => nofun

/-- A configuration in which nothing contains itself can be compared with any values. -/
theorem Finite.comparable {c : Configuration} (hc : c.Finite) (es : List (String × Value)) :
    c.Comparable es :=
  fun e _ old hold => Value.isEndless_of_isFinite (hc e.1 old hold) e.2

/-- Any configuration can be compared with values that do not contain themselves. -/
theorem comparable_of_forall {c : Configuration} {es : List (String × Value)}
    (h : ∀ e ∈ es, e.2.isFinite = true) : c.Comparable es :=
  fun e he old _ => Value.isEndless_isFinite old (h e he)

/-- In particular with those of a finite configuration. -/
theorem Finite.comparable_entries {c d : Configuration} (hd : d.Finite) : c.Comparable d.entries :=
  comparable_of_forall fun e he => hd e.1 e.2 (Ordered.get?_eq_some_iff.2 he)

/-- Overrides can be traced exactly when the old values can be compared with the new ones and, wherever two
differ, both can be shown. -/
theorem traceOverrides_eq_ok_iff {c : Configuration} {es : List (String × Value)} :
    c.traceOverrides es = .ok () ↔ c.Comparable es ∧ ∀ e ∈ es, ∀ old, c.get? e.1 = some old →
      old.same e.2 = false → old.isWritable = true ∧ e.2.isWritable = true := by
  induction es with
  | nil => exact ⟨fun _ => ⟨nofun, nofun⟩, fun _ => rfl⟩
  | cons e es ih =>
    obtain ⟨k, v⟩ := e
    rw [Comparable, List.forall_mem_cons, List.forall_mem_cons, and_and_and_comm, ← Comparable, ← ih,
      traceOverrides]
    cases hk : c.get? k with
    | none => exact ⟨fun h => ⟨⟨nofun, nofun⟩, h⟩, And.right⟩
    | some old =>
      simp only [Option.some.injEq, forall_eq', Value.compare]
      cases hendless : old.isEndless v with
      | true => exact ⟨nofun, fun h => by cases h.1.1⟩
      | false =>
        simp only [Bool.false_eq_true, ↓reduceIte, ok_bind]
        cases hsame : old.same v with
        | true => exact ⟨fun h => ⟨⟨trivial, nofun⟩, h⟩, And.right⟩
        | false =>
          simp only [Bool.not_false, ↓reduceIte, bind_eq_ok]
          constructor
          · rintro ⟨⟨⟩, hold, ⟨⟩, hnew, h⟩
            exact ⟨⟨trivial, fun _ => ⟨Value.discard_quoted_eq_ok.1 hold, Value.discard_quoted_eq_ok.1 hnew⟩⟩, h⟩
          · rintro ⟨⟨-, hshown⟩, h⟩
            obtain ⟨hold, hnew⟩ := hshown trivial
            exact ⟨(), Value.discard_quoted_eq_ok.2 hold, (), Value.discard_quoted_eq_ok.2 hnew, h⟩

/-- Overrides of a writable configuration by writable values can be traced if they can be compared. -/
theorem traceOverrides_eq_ok {c : Configuration} (hc : c.Writable) {es : List (String × Value)}
    (hcompare : c.Comparable es) (he : ∀ e ∈ es, e.2.isWritable = true) : c.traceOverrides es = .ok () :=
  traceOverrides_eq_ok_iff.2 ⟨hcompare, fun e hm old ho _ => ⟨hc e.1 old ho, he e hm⟩⟩

end Configuration

end ClusterPlan
