import ClusterPlan.Proofs.Assignment
import ClusterPlan.Proofs.Identity
import ClusterPlan.Proofs.Overrides

/-!
# Flags and the overrides that do the same

Most flags set one option of the configuration, and an override of that option does the same
(`Overlay.Counterpart`). The options of a command line are read one by one (`Overlay.ofOptions_put`), so each
of the two changes the overlay in its own part only; a resolution looks at the options and the overrides
together (`Layered.get?_congr`), and there the two come to the same. The main statement is
`resolve_counterpart`.
-/

namespace ClusterPlan

section
variable {tolerance : Tolerance}

/-! ## Options that are read one by one -/

namespace Overlay

variable {options : Options}

/-- The value of an option depends on what is given under its name only. -/
theorem given?_put (options : Options) (name : String) (v : Value) (o : CommandOption) :
    given? (options.put name v) o =
      if name = o.name then given? (.single name v) o else given? options o := by
  have hput := options.get?_put name o.name v
  have hsingle : (Ordered.single name v).get? o.name = if name = o.name then some v else none := rfl
  split
  · next h =>
    rw [if_pos h] at hput hsingle
    rw [given?, given?, hput, hsingle]
  · next h =>
    rw [if_neg h] at hput
    rw [given?, given?, hput]

/-- What is read off one option is read off the new value if that one is put under its name, and else it stays
the same. -/
theorem read_put {α : Type} {read : Options → α} {o : CommandOption}
    (h : ∀ os os', given? os o = given? os' o → read os = read os') (options : Options) (name : String)
    (v : Value) : read (options.put name v) =
      if name = o.name then read (.single name v) else read options := by
  have hgiven := given?_put options name v o
  split
  · next hname => rw [if_pos hname] at hgiven; exact h _ _ hgiven
  · next hname => rw [if_neg hname] at hgiven; exact h _ _ hgiven

/-- A text option is read from what is given for it. -/
theorem readText_congr {o : CommandOption} {os os' : Options} (h : given? os o = given? os' o) :
    readText tolerance os o = readText tolerance os' o := by
  rw [readText, readText, h]

/-- So is a memory option. -/
theorem readMemory_congr {o : CommandOption} {os os' : Options} (h : given? os o = given? os' o) :
    readMemory tolerance os o = readMemory tolerance os' o := by
  rw [readMemory, readMemory, readText_congr h]

/-- So is the option for the application. -/
theorem readClusterId_congr {os os' : Options}
    (h : given? os .applicationId = given? os' .applicationId) :
    readClusterId tolerance os = readClusterId tolerance os' := by
  rw [readClusterId, readClusterId, readText_congr h]

/-- So is the option for the slots. -/
theorem readSlots_congr {os os' : Options} (h : given? os .slots = given? os' .slots) :
    readSlots tolerance os = readSlots tolerance os' := by
  rw [readSlots, readSlots, h]

/-- So is a list option. -/
theorem readList_congr {o : CommandOption} {os os' : Options} (h : given? os o = given? os' o) :
    readList tolerance os o = readList tolerance os' o := by
  rw [readList, readList, h]

/-- The overlay with what another one has read off the option of a name. -/
def withOption (o : Overlay) (name : String) (o' : Overlay) : Overlay where
  mode := o.mode
  clusterId := if name = CommandOption.applicationId.name then o'.clusterId else o.clusterId
  masterMemory := if name = CommandOption.masterMemory.name then o'.masterMemory else o.masterMemory
  workerMemory := if name = CommandOption.workerMemory.name then o'.workerMemory else o.workerMemory
  slots := if name = CommandOption.slots.name then o'.slots else o.slots
  detached := if name = CommandOption.detached.name then o'.detached else o.detached
  namespaceId := if name = CommandOption.namespaceId.name then o'.namespaceId else o.namespaceId
  nodeLabel := if name = CommandOption.nodeLabel.name then o'.nodeLabel else o.nodeLabel
  shipFiles := if name = CommandOption.ship.name then o'.shipFiles else o.shipFiles
  dynamic := if name = CommandOption.dynamic.name then o'.dynamic else o.dynamic

/-- An overlay is read with one more option when the option is read on its own. -/
theorem ReadFrom.put {name : String} {v : Value} {o o' : Overlay} (h : ReadFrom tolerance options o)
    (h' : ReadFrom tolerance (.single name v) o') :
    ReadFrom tolerance (options.put name v) (o.withOption name o') := by
  have read {α : Type} {read : Options → Except Failure α} {f : CommandOption} {a a' : α}
      (hcongr : ∀ os os', given? os f = given? os' f → read os = read os') (ha : read options = .ok a)
      (ha' : read (.single name v) = .ok a') :
      read (options.put name v) = .ok (if name = f.name then a' else a) := by
    rw [read_put hcongr]
    split
    · exact ha'
    · exact ha
  obtain ⟨items, hitems, hdynamic⟩ := h.dynamic
  obtain ⟨items', hitems', hdynamic'⟩ := h'.dynamic
  refine ⟨read (fun _ _ => readClusterId_congr) h.clusterId h'.clusterId,
    read (fun _ _ => readMemory_congr) h.masterMemory h'.masterMemory,
    read (fun _ _ => readMemory_congr) h.workerMemory h'.workerMemory,
    read (fun _ _ => readSlots_congr) h.slots h'.slots, ?_,
    read (fun _ _ => readText_congr) h.namespaceId h'.namespaceId,
    read (fun _ _ => readText_congr) h.nodeLabel h'.nodeLabel,
    read (fun _ _ => readList_congr) h.shipFiles h'.shipFiles,
    _, read (fun _ _ => readList_congr) hitems hitems', ?_⟩
  · show (if name = CommandOption.detached.name then o'.detached else o.detached) = _
    rw [given?_put]
    split
    · exact h'.detached
    · exact h.detached
  · show applyOverrides tolerance (if name = CommandOption.dynamic.name then items' else items) =
      .ok (if name = CommandOption.dynamic.name then o'.dynamic else o.dynamic)
    split
    · exact hdynamic'
    · exact hdynamic

/-- The options of a command line are read one by one: a command line with one option put into it is accepted
if it is accepted without that option and the option is accepted alone. -/
theorem ofOptions_put {mode mode' : Mode} {name : String} {v : Value} {o o' : Overlay}
    (h : ofOptions tolerance mode options = .ok o)
    (h' : ofOptions tolerance mode' (.single name v) = .ok o') :
    ofOptions tolerance mode (options.put name v) = .ok (o.withOption name o') := by
  obtain ⟨hmode, hread, htrace⟩ := ofOptions_eq_ok_iff.1 h
  obtain ⟨-, hread', htrace'⟩ := ofOptions_eq_ok_iff.1 h'
  have ⟨hnumbers, hdynamic⟩ := trace_eq_ok_iff.1 htrace
  have ⟨hnumbers', hdynamic'⟩ := trace_eq_ok_iff.1 htrace'
  have ⟨hmaster, hworker, hslots⟩ := forall_numbers_iff.1 hnumbers
  have ⟨hmaster', hworker', hslots'⟩ := forall_numbers_iff.1 hnumbers'
  refine ofOptions_eq_ok_iff.2 ⟨hmode, hread.put hread', trace_eq_ok_iff.2
    ⟨forall_numbers_iff.2 ⟨?_, ?_, ?_⟩, ?_⟩⟩
  · exact iteInduction (motive := fun x => ∀ m, x = some m → (Value.memory m).isWritable = true)
      (fun _ => hmaster') fun _ => hmaster
  · exact iteInduction (motive := fun x => ∀ m, x = some m → (Value.memory m).isWritable = true)
      (fun _ => hworker') fun _ => hworker
  · exact iteInduction (motive := fun x => ∀ i, x = some i → (Value.int i).isWritable = true)
      (fun _ => hslots') fun _ => hslots
  · exact iteInduction (motive := Configuration.Writable) (fun _ => hdynamic') fun _ => hdynamic

/-! ## What a flag and its counterpart set -/

/-- A flag with a value, and the option and the text of an override that does the same. -/
inductive Counterpart : CommandOption → Value → ConfigOption → String → Prop
  | masterMemory (s : String) : Counterpart .masterMemory (.str s) .masterMemory s
  | workerMemory (s : String) : Counterpart .workerMemory (.str s) .workerMemory s
  | slots (s : String) : Counterpart .slots (.str s) .slots s
  | namespaceId (s : String) : Counterpart .namespaceId (.str s) .namespaceId s
  | nodeLabel (s : String) : Counterpart .nodeLabel (.str s) .nodeLabel s
  | applicationId (s : String) : Counterpart .applicationId (.str s) .applicationId s
  | detached : Counterpart .detached (.bool true) .attached "false"

/-- A text that is given is read without the blanks around it. -/
theorem eq_strip_of_readText {o : CommandOption} {s : String} {x : Option String}
    (hs : given? options o = some (.str s)) (h : readText tolerance options o = .ok x) :
    x = some (Text.strip s) := by
  rw [readText, hs] at h
  replace h : (if Text.isBlankText s then _ else Except.ok (some (Text.strip s))) = .ok x := h
  split at h
  · cases h
  · exact (Except.ok.inj h).symm

/-- A memory option that is given is read as the size of its text. -/
theorem exists_of_readMemory {o : CommandOption} {s : String} {x : Option MemorySize}
    (hs : given? options o = some (.str s)) (h : readMemory tolerance options o = .ok x) :
    ∃ m, x = some m ∧ MemorySize.parse (Text.strip s) = .ok m := by
  obtain ⟨raw, hraw, h⟩ := bind_eq_ok.1 h
  obtain rfl := eq_strip_of_readText hs hraw
  cases hm : MemorySize.parse (Text.strip s) with
  | error f => simp [hm, throw, throwThe, MonadExceptOf.throw] at h
  | ok m =>
    simp only [hm] at h
    exact ⟨m, (Except.ok.inj h).symm, rfl⟩

/-- The application that is given is read as its text, which is an ID. -/
theorem exists_of_readClusterId {s : String} {x : Option String}
    (hs : given? options .applicationId = some (.str s)) (h : readClusterId tolerance options = .ok x) :
    x = some (Text.strip s) ∧ ∃ id, ApplicationId.parse (Text.strip s) = .ok id := by
  obtain ⟨raw, hraw, h⟩ := bind_eq_ok.1 h
  obtain rfl := eq_strip_of_readText hs hraw
  cases hid : ApplicationId.parse (Text.strip s) with
  | error f => simp [hid, throw, throwThe, MonadExceptOf.throw] at h
  | ok id =>
    simp only [hid] at h
    exact ⟨(Except.ok.inj h).symm, id, rfl⟩

/-- The slots that are given are read as the number of their text. -/
theorem exists_of_readSlots {s : String} {x : Option Int}
    (hs : given? options .slots = some (.str s)) (h : readSlots tolerance options = .ok x) :
    ∃ i, x = some i ∧ Text.readInt (Text.trim s.toList) = .number i := by
  rw [readSlots, hs] at h
  obtain ⟨text, htext, h⟩ := bind_eq_ok.1 h
  cases htext
  cases hi : Text.readInt (Text.trim s.toList) with
  | number i =>
    simp only [hi] at h
    split at h
    · obtain ⟨_, -, h⟩ := bind_eq_ok.1 h
      cases h
    · exact ⟨i, (Except.ok.inj h).symm, rfl⟩
  | _ => simp [hi, throw, throwThe, MonadExceptOf.throw] at h

/-- An option that is not given is read as nothing. -/
theorem readText_of_none {o : CommandOption} (h : given? options o = none) :
    readText tolerance options o = .ok none := by
  rw [readText, h]

/-- Without a memory option there is no size. -/
theorem readMemory_of_none {o : CommandOption} (h : given? options o = none) :
    readMemory tolerance options o = .ok none := by
  rw [readMemory, readText_of_none h]
  rfl

/-- Without the option for the application there is none. -/
theorem readClusterId_of_none (h : given? options .applicationId = none) :
    readClusterId tolerance options = .ok none := by
  rw [readClusterId, readText_of_none h]
  rfl

/-- Without the option for the slots there is no number. -/
theorem readSlots_of_none (h : given? options .slots = none) :
    readSlots tolerance options = .ok none := by
  rw [readSlots, h]

/-- The options of flags convert the texts that the flags are read from. -/
theorem convertEntry_of_parse {o : ConfigOption} (ho : o ∈ ConfigOption.registry)
    (ht : o.type = .memory) {s : String} {m : MemorySize} (h : MemorySize.parse s = .ok m) :
    Configuration.convertEntry tolerance o.key (.str s) = .ok (.memory m) := by
  obtain ⟨key, type, default, description⟩ := o
  cases ht
  rw [Configuration.convertEntry, ConfigOption.known?_key ho]
  show (do return Value.memory (← MemorySize.parse s)) = _
  rw [h]
  rfl

/-- A text under the key of a text option is kept. -/
theorem convertEntry_string {o : ConfigOption} (ho : o ∈ ConfigOption.registry)
    (ht : o.type = .string) (s : String) :
    Configuration.convertEntry tolerance o.key (.str s) = .ok (.str s) :=
  Configuration.convertEntry_of_holds ho (by rw [ht]; rfl)

/-- The text of a number of slots is converted into the number, with or without blanks around it. -/
theorem convertEntry_slots {s : String} {i : Int}
    (h : Text.readInt (Text.trim s.toList) = .number i) :
    Configuration.convertEntry tolerance ConfigOption.slots.key (.str (Text.strip s)) = .ok (.int i) := by
  have htrim : Text.trim (Text.strip s).toList = Text.trim s.toList := by
    rw [Text.strip, String.toList_ofList, (Text.trimmed_trim _).trim_eq]
  rw [Configuration.convertEntry, ConfigOption.known?_key (by simp [ConfigOption.registry])]
  simp only [ConfigOption.convert, ConfigOption.slots, Value.text, bind, Except.bind, htrim, h]

/-- The counterpart of the flag for detached clusters is converted into the value that the flag sets. -/
theorem convertEntry_attached : Configuration.convertEntry tolerance ConfigOption.attached.key
    (.str (Text.strip "false")) = .ok (.bool false) := by
  have hstrip : Text.strip "false" = "false" := by decide +kernel
  have hread : ConfigOption.readBool? "false" = some false := by decide +kernel
  rw [Configuration.convertEntry, ConfigOption.known?_key (by simp [ConfigOption.registry]), hstrip]
  simp only [ConfigOption.convert, ConfigOption.attached, Value.text, bind, Except.bind, hread]

/-- Choices that differ in one place only, where an option is set to a value that was not set, are the same
in front of that place and behind it. -/
theorem exists_choices_around {l l' : List (ConfigOption × Option Value)} {opt : ConfigOption}
    {x x' : Option Value} {w : Value} (n : Nat) (hx : l[n]? = some (opt, x)) (hx' : l' = l.set n (opt, x'))
    (hnone : x = none) (hsome : x' = some w) :
    ∃ front back, l = front ++ (opt, none) :: back ∧ l' = front ++ (opt, some w) :: back := by
  obtain ⟨hn, hget⟩ := List.getElem?_eq_some_iff.1 hx
  obtain ⟨front, back, hl, -, hset⟩ := @List.exists_of_set _ n (opt, x') l hn
  rw [hget, hnone] at hl
  rw [hset, hsome] at hx'
  exact ⟨front, back, hl, hx'⟩

/-- What a flag sets is what the option makes of the text of its counterpart: among the options that the
overlay sets, the one of the counterpart has this value instead of none. -/
theorem Counterpart.exists_choice {flag : CommandOption} {v : Value} {opt : ConfigOption} {s : String}
    {o o' : Overlay} (h : Counterpart flag v opt s) (hread : ReadFrom tolerance options o)
    (hflag : ∀ w, given? options flag = some w → flag = .detached ∧ w.truthy = false)
    (hread' : ReadFrom tolerance (.single flag.name v) o') :
    ∃ w, Configuration.convertEntry tolerance opt.key (.str (Text.strip s)) = .ok w ∧
      (opt.key = ConfigOption.applicationId.key → ∃ id, ApplicationId.parse (Text.strip s) = .ok id) ∧
      (∃ front back, o.choices = front ++ (opt, none) :: back ∧
        (o.withOption flag.name o').choices = front ++ (opt, some w) :: back) ∧
      (o.withOption flag.name o').dynamic = o.dynamic := by
  have hnone (hne : flag ≠ .detached) : given? options flag = none :=
    Option.eq_none_iff_forall_ne_some.2 fun w hw => hne (hflag w hw).1
  cases h with
  | masterMemory s =>
    have ho := Except.ok.inj (hread.masterMemory.symm.trans (readMemory_of_none (hnone (by decide))))
    obtain ⟨m, ho', hm⟩ := exists_of_readMemory rfl hread'.masterMemory
    exact ⟨_, convertEntry_of_parse (by simp [ConfigOption.registry]) rfl hm, fun h => absurd h (by decide),
      exists_choices_around 1 rfl rfl (congrArg (Option.map _) ho) (congrArg (Option.map _) ho'), rfl⟩
  | workerMemory s =>
    have ho := Except.ok.inj (hread.workerMemory.symm.trans (readMemory_of_none (hnone (by decide))))
    obtain ⟨m, ho', hm⟩ := exists_of_readMemory rfl hread'.workerMemory
    exact ⟨_, convertEntry_of_parse (by simp [ConfigOption.registry]) rfl hm, fun h => absurd h (by decide),
      exists_choices_around 2 rfl rfl (congrArg (Option.map _) ho) (congrArg (Option.map _) ho'), rfl⟩
  | slots s =>
    have ho := Except.ok.inj (hread.slots.symm.trans (readSlots_of_none (hnone (by decide))))
    obtain ⟨i, ho', hi⟩ := exists_of_readSlots rfl hread'.slots
    exact ⟨_, convertEntry_slots hi, fun h => absurd h (by decide),
      exists_choices_around 3 rfl rfl (congrArg (Option.map _) ho) (congrArg (Option.map _) ho'), rfl⟩
  | namespaceId s =>
    have ho := Except.ok.inj (hread.namespaceId.symm.trans (readText_of_none (hnone (by decide))))
    have ho' := eq_strip_of_readText rfl hread'.namespaceId
    exact ⟨_, convertEntry_string (by simp [ConfigOption.registry]) rfl _, fun h => absurd h (by decide),
      exists_choices_around 4 rfl rfl (congrArg (Option.map _) ho) (congrArg (Option.map _) ho'), rfl⟩
  | nodeLabel s =>
    have ho := Except.ok.inj (hread.nodeLabel.symm.trans (readText_of_none (hnone (by decide))))
    have ho' := eq_strip_of_readText rfl hread'.nodeLabel
    exact ⟨_, convertEntry_string (by simp [ConfigOption.registry]) rfl _, fun h => absurd h (by decide),
      exists_choices_around 5 rfl rfl (congrArg (Option.map _) ho) (congrArg (Option.map _) ho'), rfl⟩
  | applicationId s =>
    have ho := Except.ok.inj (hread.clusterId.symm.trans (readClusterId_of_none (hnone (by decide))))
    obtain ⟨ho', hid⟩ := exists_of_readClusterId rfl hread'.clusterId
    exact ⟨_, convertEntry_string (by simp [ConfigOption.registry]) rfl _, fun _ => hid,
      exists_choices_around 0 rfl rfl (congrArg (Option.map _) ho) (congrArg (Option.map _) ho'), rfl⟩
  | detached =>
    have ho : o.detached = false := by
      rw [hread.detached]
      cases hw : given? options .detached with
      | none => rfl
      | some w => exact (hflag w hw).2
    have ho' : o'.detached = true := hread'.detached
    exact ⟨_, convertEntry_attached, fun h => absurd h (by decide),
      exists_choices_around 6 rfl rfl (if_neg (ho ▸ Bool.false_ne_true)) (if_pos ho'), rfl⟩

/-- The counterpart of a flag is a known option. -/
theorem Counterpart.mem_registry {flag : CommandOption} {v : Value} {opt : ConfigOption} {s : String}
    (h : Counterpart flag v opt s) : opt ∈ ConfigOption.registry := by
  cases h <;> simp [ConfigOption.registry]

/-! ## Overrides among others -/

/-- An override of a known option is read as its key and the text without the blanks around it. -/
theorem assignment?_key {o : ConfigOption} (ho : o ∈ ConfigOption.registry) (s : String) :
    Text.assignment? (o.key ++ "=" ++ s) = some (o.key, Text.strip s) := by
  have hkeys : ConfigOption.registry.all fun o => !o.key.toList.contains '=' &&
      !o.key.toList.isEmpty && Text.trim o.key.toList == o.key.toList := by decide +kernel
  have hkey := List.all_eq_true.1 hkeys o ho
  simp only [Bool.and_eq_true, Bool.not_eq_true', beq_iff_eq, List.isEmpty_eq_false_iff] at hkey
  obtain ⟨⟨hequals, hne⟩, htrim⟩ := hkey
  have hnot : '=' ∉ o.key.toList := fun hm => by
    rw [List.contains_iff_mem.2 hm] at hequals
    cases hequals
  have hblank : ¬ Text.Blank o.key.toList := fun h => hne (htrim ▸ Text.trim_eq_nil_iff.2 h)
  have hlist : (o.key ++ "=" ++ s).toList = o.key.toList ++ '=' :: s.toList := by simp
  rw [Text.assignment?_of_isAssignment ⟨_, _, hnot, hblank, hlist⟩, hlist, Text.splitAtEquals_append hnot,
    htrim, String.ofList_toList]
  rfl

/-- An override of a key that the others leave alone changes what is under that key only, wherever it
stands. -/
theorem exists_applyOverrides_insert {before after : List String} {item key : String} {v : Value}
    {c : Configuration} (h : applyOverrides tolerance (before ++ after) = .ok c)
    (hitem : Sets tolerance item (key, v)) (hkey : c.get? key = none) :
    ∃ d, applyOverrides tolerance (before ++ item :: after) = .ok d ∧
      ∀ k, d.get? k = if key = k then some v else c.get? k := by
  obtain ⟨es, hes, hval⟩ := foldlM_applyOverride_eq_ok_iff.1 h
  have hbefore := List.forall₂_take before.length hes
  have hafter := List.forall₂_drop before.length hes
  rw [List.take_left] at hbefore
  rw [List.drop_left] at hafter
  obtain ⟨d, hd, hdval⟩ := exists_foldlM_applyOverride (List.rel_append hbefore (.cons hitem hafter)) .empty
  refine ⟨d, hd, fun k => ?_⟩
  have hnot : key ∉ (es.drop before.length).map Prod.fst := by
    intro hm
    rw [Configuration.get?, hval, Ordered.get?_putAll] at hkey
    have hlookup := (Option.or_eq_none_iff.1 hkey).1
    rw [Ordered.lookup_eq_none_iff, List.map_reverse, List.mem_reverse] at hlookup
    exact hlookup ((List.drop_sublist _ _).map _ |>.subset hm)
  rw [Configuration.get?, Configuration.get?, hdval, hval, Ordered.get?_putAll_insert _ v hnot,
    List.take_append_drop]

/-- A command line of overrides only is accepted if these are and what they set can be written. -/
theorem ofOptions_single_dynamic (mode : Mode) {value : Value} {items : List String} {d : Configuration}
    (hitems : readList tolerance (.single CommandOption.dynamic.name value) .dynamic = .ok items)
    (h : applyOverrides tolerance items = .ok d) (hd : d.Writable) :
    ofOptions tolerance mode (.single CommandOption.dynamic.name value) = .ok { mode, dynamic := d } :=
  ofOptions_eq_ok_iff.2 ⟨rfl, ⟨rfl, rfl, rfl, rfl, rfl, rfl, rfl, rfl, items, hitems, h⟩,
    trace_eq_ok_iff.2 ⟨fun _ => nofun, hd⟩⟩

/-! ## What both come to -/

/-- What the first overlay sets by an option the second one sets by an override. -/
structure Moved (opt : ConfigOption) (o₁ o₂ : Overlay) : Prop where
  choices : ∃ v front back, o₁.choices = front ++ (opt, some v) :: back ∧
    o₂.choices = front ++ (opt, none) :: back ∧
    ∀ k, o₂.dynamic.get? k = if opt.key = k then some v else o₁.dynamic.get? k
  free : o₁.dynamic.get? opt.key = none

/-- Both options and overrides are accepted with the flag, or with the override in its place. -/
theorem Counterpart.exists_moved {mode mode' : Mode} {overlay o' : Overlay} {flag : CommandOption}
    {v value : Value} {opt : ConfigOption} {s : String} {before after : List String}
    (h : Counterpart flag v opt s) (ho : ofOptions tolerance mode options = .ok overlay)
    (hflag : ∀ w, given? options flag = some w → flag = .detached ∧ w.truthy = false)
    (hkey : overlay.dynamic.contains opt = false)
    (hv : ofOptions tolerance mode' (.single flag.name v) = .ok o')
    (hitems : readList tolerance options .dynamic = .ok (before ++ after))
    (hvalue : readList tolerance (options.put CommandOption.dynamic.name value) .dynamic =
      .ok (before ++ (opt.key ++ "=" ++ s) :: after)) :
    ∃ o₁ o₂, ofOptions tolerance mode (options.put flag.name v) = .ok o₁ ∧
      ofOptions tolerance mode (options.put CommandOption.dynamic.name value) = .ok o₂ ∧
      Moved opt o₁ o₂ := by
  obtain ⟨-, hread, -⟩ := ofOptions_eq_ok_iff.1 ho
  obtain ⟨-, hread', -⟩ := ofOptions_eq_ok_iff.1 hv
  obtain ⟨w, hconv, hid, ⟨front, back, hnone, hsome⟩, hdynamic⟩ := h.exists_choice hread hflag hread'
  have ho₁ := ofOptions_put ho hv
  have hmem : (opt, some w) ∈ (overlay.withOption flag.name o').choices :=
    hsome ▸ List.mem_append_right _ List.mem_cons_self
  have hw := isWritable_of_mem_choices (sound_of_ofOptions ho₁).2.numbers hmem
  have hsets : Sets tolerance (opt.key ++ "=" ++ s) (opt.key, w) :=
    ⟨_, assignment?_key h.mem_registry s, hconv, hid⟩
  have hfree : overlay.dynamic.get? opt.key = none := by simpa [Configuration.contains] using hkey
  obtain ⟨items, hitems', happly⟩ := hread.dynamic
  obtain rfl := Except.ok.inj (hitems.symm.trans hitems')
  obtain ⟨d, hd, hget⟩ := exists_applyOverrides_insert happly hsets hfree
  have hdw : d.Writable := by
    intro k u hu
    rw [hget] at hu
    split at hu
    · cases hu; exact hw
    · exact (sound_of_ofOptions ho).2.dynamic k u hu
  rw [read_put (fun _ _ => readList_congr), if_pos rfl] at hvalue
  have ho₂ := ofOptions_put ho (ofOptions_single_dynamic mode hvalue hd hdw)
  refine ⟨_, _, ho₁, ho₂, ⟨w, front, back, hsome, hnone, fun k => ?_⟩, ?_⟩
  · rw [hdynamic]
    exact hget k
  · rw [hdynamic]
    exact hfree

variable {opt : ConfigOption} {o₁ o₂ : Overlay} {T₁ T₂ : Configuration}

/-- The options and the overrides together come to the same. -/
theorem Moved.get?_or (h : Moved opt o₁ o₂) (hT₁ : o₁.toConfiguration tolerance = .ok T₁)
    (hT₂ : o₂.toConfiguration tolerance = .ok T₂) (k : String) :
    (o₁.dynamic.get? k).or (T₁.get? k) = (o₂.dynamic.get? k).or (T₂.get? k) := by
  obtain ⟨v, front, back, hsome, hnone, hdynamic⟩ := h.choices
  have hdistinct := o₁.distinct_choices
  have hval₁ := values_of_toConfiguration hT₁
  have hval₂ := values_of_toConfiguration hT₂
  rw [hsome] at hdistinct hval₁
  rw [hnone] at hval₂
  rw [hdynamic, Choices.get?_of_choose hdistinct hval₂ hval₁]
  split
  · next hk =>
    subst hk
    rw [h.free, Option.none_or, Option.some_or]
  · rfl

/-- Both name the cluster or neither does. -/
theorem Moved.setsClusterId (h : Moved opt o₁ o₂) : o₁.setsClusterId = o₂.setsClusterId := by
  obtain ⟨T₁, hT₁, hid₁, -⟩ := o₁.exists_toConfiguration .standard
  obtain ⟨T₂, hT₂, hid₂, -⟩ := o₂.exists_toConfiguration .standard
  rw [setsClusterId_eq hid₁, setsClusterId_eq hid₂, h.get?_or hT₁ hT₂]

end Overlay

/-! ## Resolutions -/

/-- A resolution depends on the options and the overrides only by what the two have together. -/
theorem Layered.get?_congr {base S T D T' D' c c' : Configuration} {mode : Mode}
    (h : Layered base S T D mode c) (h' : Layered base S T' D' mode c')
    (hupper : ∀ k, (D.get? k).or (T.get? k) = (D'.get? k).or (T'.get? k)) (k : String) :
    c.get? k = c'.get? k := by
  have hid : (T.contains .applicationId || D.contains .applicationId) =
      (T'.contains .applicationId || D'.contains .applicationId) := by
    rw [Bool.or_comm, Bool.or_comm (T'.contains _)]
    simp only [Configuration.contains, ← Option.isSome_or, hupper]
  rw [h.get?, h'.get?, hupper]
  simp only [Bool.or_assoc (base.contains _ || S.contains _), hid]

/-- Of an overlay the session record depends on whether it names the cluster. -/
theorem sessionLayer_congr {session : Option SessionRecord} {o o' : Overlay}
    (h : o.setsClusterId = o'.setsClusterId) :
    sessionLayer tolerance session o = sessionLayer tolerance session o' := by
  simp only [sessionLayer, h]

/-- **A flag and its override do the same.** To accepted options that neither give a flag nor set its option
by an override, the flag can be added with any value that is accepted alone, or an override with the same text,
anywhere among the others. Both are accepted, both can be resolved over any base and session record, and the
two configurations have the same value under each key. In both the session record takes part, or in neither. -/
theorem resolve_counterpart {base : Configuration} {session : Option SessionRecord} {mode mode' : Mode}
    {options : Overlay.Options} {overlay o' : Overlay} {flag : CommandOption} {v value : Value}
    {opt : ConfigOption} {s : String} {before after : List String} (hb : base.Writable)
    (hs : ∀ r, session = some r → r.Accepted ∧ r.Writable)
    (ho : Overlay.ofOptions tolerance mode options = .ok overlay)
    (h : Overlay.Counterpart flag v opt s)
    (hflag : ∀ w, Overlay.given? options flag = some w → flag = .detached ∧ w.truthy = false)
    (hkey : overlay.dynamic.contains opt = false)
    (hv : Overlay.ofOptions tolerance mode' (.single flag.name v) = .ok o')
    (hitems : Overlay.readList tolerance options .dynamic = .ok (before ++ after))
    (hvalue : Overlay.readList tolerance (options.put CommandOption.dynamic.name value) .dynamic =
      .ok (before ++ (opt.key ++ "=" ++ s) :: after)) :
    ∃ o₁ o₂ c₁ c₂,
      Overlay.ofOptions tolerance mode (options.put flag.name v) = .ok o₁ ∧
      Overlay.ofOptions tolerance mode (options.put CommandOption.dynamic.name value) = .ok o₂ ∧
      resolve tolerance base session o₁ = .ok c₁ ∧ resolve tolerance base session o₂ = .ok c₂ ∧
      (∀ k, c₁.get? k = c₂.get? k) ∧ o₁.setsClusterId = o₂.setsClusterId ∧
      ∀ env : Environment, env.tolerance = tolerance → ∃ uses,
        Pass.usesSession env ⟨base, session⟩ (options.put flag.name v) = .ok uses ∧
        Pass.usesSession env ⟨base, session⟩ (options.put CommandOption.dynamic.name value) =
          .ok uses := by
  obtain ⟨o₁, o₂, ho₁, ho₂, hmoved⟩ := h.exists_moved ho hflag hkey hv hitems hvalue
  have ⟨hmode₁, hsound₁⟩ := Overlay.sound_of_ofOptions ho₁
  have ⟨hmode₂, hsound₂⟩ := Overlay.sound_of_ofOptions ho₂
  obtain ⟨S₁, T₁, c₁, hS₁, hT₁, hc₁, hlayered₁⟩ := exists_resolve tolerance hb hs hsound₁
  obtain ⟨S₂, T₂, c₂, hS₂, hT₂, hc₂, hlayered₂⟩ := exists_resolve tolerance hb hs hsound₂
  rw [hmode₁] at hlayered₁
  rw [hmode₂] at hlayered₂
  obtain rfl : S₁ = S₂ :=
    Except.ok.inj (hS₁.symm.trans ((sessionLayer_congr hmoved.setsClusterId).trans hS₂))
  refine ⟨o₁, o₂, c₁, c₂, ho₁, ho₂, hc₁, hc₂,
    hlayered₁.get?_congr hlayered₂ (hmoved.get?_or hT₁ hT₂), hmoved.setsClusterId, ?_⟩
  rintro env rfl
  exact ⟨_, Pass.usesSession_of_ofOptions _ ho₁, hmoved.setsClusterId ▸ Pass.usesSession_of_ofOptions _ ho₂⟩

/-- A node label with an equals sign and blanks, as a flag and as an override between two others. -/
theorem resolve_counterpart_of_label : ∃ o₁ o₂ c₁ c₂,
    Overlay.ofOptions .standard .run (.ofList [("dynamic_properties", .list [.str "x=1", .str "y=2"]),
      ("node_label", .str " a=b ")]) = .ok o₁ ∧
    Overlay.ofOptions .standard .run (.ofList [("dynamic_properties",
      .list [.str "x=1", .str "yarn.application.node-label= a=b ", .str "y=2"])]) = .ok o₂ ∧
    resolve .standard .empty none o₁ = .ok c₁ ∧ resolve .standard .empty none o₂ = .ok c₂ ∧
    c₁.text? "yarn.application.node-label" = some "a=b" ∧
    c₂.text? "yarn.application.node-label" = some "a=b" := by
  let options : Overlay.Options :=
    .ofList [("dynamic_properties", .list [.str "x=1", .str "y=2"])]
  obtain ⟨overlay, ho⟩ : ∃ o, Overlay.ofOptions .standard .run options = .ok o := ⟨_, rfl⟩
  obtain ⟨o', ho'⟩ : ∃ o, Overlay.ofOptions .standard .run
      (.single "node_label" (.str " a=b ")) = .ok o := ⟨_, rfl⟩
  have hb : Configuration.empty.Writable := fun _ _ => nofun
  have hs (r : SessionRecord) (h : none = some r) : r.Accepted ∧ r.Writable := nomatch h
  have hfree : overlay.dynamic.contains .nodeLabel = false := by
    cases ho
    rfl
  have hitems : Overlay.readList .standard options .dynamic = .ok (["x=1"] ++ ["y=2"]) := rfl
  have hitem : ConfigOption.nodeLabel.key ++ "=" ++ " a=b " = "yarn.application.node-label= a=b " := by
    decide +kernel
  have hvalue : Overlay.readList .standard (options.put CommandOption.dynamic.name
      (.list [.str "x=1", .str "yarn.application.node-label= a=b ", .str "y=2"])) .dynamic =
      .ok (["x=1"] ++ (ConfigOption.nodeLabel.key ++ "=" ++ " a=b ") :: ["y=2"]) := by
    rw [hitem]
    rfl
  obtain ⟨o₁, o₂, c₁, c₂, ho₁, ho₂, hc₁, hc₂, hget, -, -⟩ :=
    resolve_counterpart hb hs ho (.nodeLabel " a=b ") (fun _ => nofun) hfree ho' hitems hvalue
  have hlabel : c₁.text? "yarn.application.node-label" = some "a=b" := by
    have hderived : ((resolve .standard .empty none o₁).toOption.bind
        (·.text? "yarn.application.node-label")) = some "a=b" := by
      cases ho₁
      decide +kernel
    rw [hc₁] at hderived
    exact hderived
  refine ⟨o₁, o₂, c₁, c₂, ho₁, ho₂, hc₁, hc₂, hlabel, ?_⟩
  rw [Configuration.text?, ← hget]
  exact hlabel

end

end ClusterPlan
