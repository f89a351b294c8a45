import ClusterPlan.Proofs.Overlay
import ClusterPlan.Proofs.Rejection

/-!
# What is reported of single options

Whatever a command line gives an option (`Value.Entered`), reading it ends in a value or in a failure that
names the option or is one of memory (`Failure.AboutOption`); the only others are those of numbers at their
limits, and they need a text that goes beyond one. `Reported` says so of a computation, and each reader of an
option is followed through with it.
-/

namespace ClusterPlan

/-! ## Values of options -/

/-- The values that a command line gives an option: none, a text, a flag or a sequence of texts. -/
inductive Value.Entered : Value → Prop
  | null : Entered .null
  | str (s : String) : Entered (.str s)
  | bool (b : Bool) : Entered (.bool b)
  | list (ss : List String) : Entered (.list (ss.map .str))
  | tuple (ss : List String) : Entered (.tuple (ss.map .str))

/-- Whatever is entered can be shown. -/
theorem Value.Entered.exists_text {v : Value} (h : v.Entered) (tolerance : Tolerance) :
    ∃ s, v.text tolerance = .ok s := by
  cases h with
  | null => exact ⟨_, rfl⟩
  | str s => exact ⟨s, rfl⟩
  | bool b => exact ⟨_, rfl⟩
  | list ss => exact exists_quoted (isWritable_texts ss)
  | tuple ss =>
    refine exists_quoted ?_
    rw [isWritable, itemsWritable_eq_true_iff, List.forall_mem_map]
    exact fun _ _ => rfl

/-- The options of the command line. -/
def CommandOption.all : List CommandOption :=
  [masterMemory, workerMemory, slots, detached, namespaceId, nodeLabel, applicationId, dynamic, ship]

/-! ## Failures -/

namespace Failure

/-- The failure is one of memory or names an option of the command line. -/
def AboutOption (f : Failure) : Prop :=
  f.family = .memory ∨ ∃ o ∈ CommandOption.all, f.family = .option o.flag

/-- A number at a limit is not a matter of an option. -/
theorem not_aboutOption_of_isLimit {f : Failure} (h : f.isLimit = true) : ¬ f.AboutOption := by
  rintro (hf | ⟨o, -, hf⟩) <;> · rw [family_of_isLimit h] at hf; cases hf

/-- The failure under which a text that was rejected is reported. -/
def reportedAs (o : CommandOption) (f : Failure) : Failure :=
  if f.isExpected && f.family != .memory then .rejectedOption o.flag f else f

/-- What is wrong with the text in general is reported under the option. -/
theorem reportedAs_of_general {f : Failure} (o : CommandOption) (h : f.family = .general) :
    f.reportedAs o = .rejectedOption o.flag f := by
  rw [reportedAs, isExpected, h]
  rfl

/-- A failure of memory says itself what it is about. -/
theorem reportedAs_of_memory {f : Failure} (o : CommandOption) (h : f.family = .memory) :
    f.reportedAs o = f := by
  rw [reportedAs, isExpected, h]
  rfl

/-- A failure at a limit is not one of the user, so no option is named. -/
theorem reportedAs_of_isLimit {f : Failure} (o : CommandOption) (h : f.isLimit = true) :
    f.reportedAs o = f := by
  rw [reportedAs, isExpected, family_of_isLimit h]
  rfl

end Failure

/-- If the computation fails, then with a failure about an option, or at a limit, which `p` rules out. -/
def Reported {α : Type} (p : Prop) (x : Except Failure α) : Prop :=
  ∀ f, x = .error f → f.AboutOption ∨ f.isLimit = true ∧ ¬ p

namespace Reported

variable {α β : Type} {p : Prop}

/-- A computation that gives a value has no failure to report. -/
theorem ok (a : α) : Reported p (.ok a : Except Failure α) := fun _ => nofun

/-- A failure of memory is about an option. -/
theorem of_memory {f : Failure} (h : f.family = .memory) : Reported p (.error f : Except Failure α) :=
  fun _ hf => .inl (.inl (by cases hf; exact h))

/-- So is one that names an option. -/
theorem of_option {f : Failure} {o : CommandOption} (ho : o ∈ CommandOption.all)
    (h : f.family = .option o.flag) : Reported p (.error f : Except Failure α) :=
  fun _ hf => .inl (.inr ⟨o, ho, by cases hf; exact h⟩)

/-- A failure at a limit is reported unless limits are ruled out. -/
theorem of_isLimit {f : Failure} (h : f.isLimit = true) (hp : ¬ p) :
    Reported p (.error f : Except Failure α) :=
  fun _ hf => .inr (by cases hf; exact ⟨h, hp⟩)

/-- A sequence of two computations is reported if the first one is and the second one on what the first one
gives. -/
theorem bind {x : Except Failure α} {g : α → Except Failure β} (hx : Reported p x)
    (hg : ∀ a, x = .ok a → Reported p (g a)) : Reported p (x >>= g) := by
  intro f hf
  rcases bind_eq_error.1 hf with h | ⟨a, ha, h⟩
  · exact hx f h
  · exact hg a ha f h

/-- A text that was rejected, reported under an option. -/
theorem reportedAs {f : Failure} {o : CommandOption} (ho : o ∈ CommandOption.all)
    (h : f.family = .memory ∨ f.family = .general ∨ f.isLimit = true ∧ ¬ p) :
    Reported p (.error (f.reportedAs o) : Except Failure α) := by
  rcases h with h | h | ⟨h, hp⟩
  · rw [Failure.reportedAs_of_memory o h]
    exact of_memory h
  · rw [Failure.reportedAs_of_general o h]
    exact of_option ho rfl
  · rw [Failure.reportedAs_of_isLimit o h]
    exact of_isLimit h hp

end Reported

/-! ## Numbers that are read -/

/-- The sign of a number does not count towards its length. -/
theorem Text.isWritable_neg (i : Int) : isWritable (-i) = isWritable i := by
  simp only [isWritable, Int.natAbs_neg]

/-- A number that is read can be written. -/
theorem Text.isWritable_of_readInt {cs : List Char} {i : Int} (h : readInt cs = .number i) :
    isWritable i = true := by
  simp only [readInt] at h
  split at h
  · cases h
  · next ds _ =>
    split at h
    · cases h
    · next hlength =>
      split at h
      · cases h
      · have hw := isWritable_ofDigits (Nat.le_of_not_lt hlength)
        obtain rfl := Reading.number.inj h
        split
        · exact (isWritable_neg _).trans hw
        · exact hw

/-- The text of a value that was read from a text fails, if at all, for the length of a number. -/
theorem Value.Readable.eq_numberTooLong {v : Value} (h : v.Readable) {f : Failure}
    (hf : v.quoted = .error f) : f = .numberTooLong := by
  cases v with
  | int i => exact eq_numberTooLong_of_writeInt hf
  | memory m =>
    rcases bind_eq_error.1 hf with hf | ⟨s, -, hf⟩
    · exact eq_numberTooLong_of_writeInt hf
    · cases hf
  | list vs =>
    obtain ⟨ss, rfl, -⟩ := h
    obtain ⟨s, hs⟩ := exists_quoted (isWritable_texts ss)
    rw [hs] at hf
    cases hf
  | str | bool | duration => cases hf
  | null | float | moment | bytes | tuple | set | mapping | knot => exact h.elim

/-- A configuration that has no text has a value without one. -/
theorem Configuration.exists_of_quoted_eq_error {c : Configuration} {f : Failure}
    (h : c.quoted = .error f) : ∃ key v, c.get? key = some v ∧ v.quoted = .error f := by
  rcases bind_eq_error.1 h with h | ⟨_, -, h⟩
  · rw [Value.ofEntries, Value.quoted] at h
    rcases bind_eq_error.1 h with h | ⟨_, -, h⟩
    · obtain ⟨e, he, hfails⟩ := Value.exists_of_quotedEntries_eq_error h
      obtain ⟨⟨key, v⟩, hm, rfl⟩ := List.mem_map.1 he
      rcases hfails with hkey | hv
      · cases hkey
      · exact ⟨key, v, Ordered.get?_eq_some_iff.2 hm, hv⟩
    · cases h
  · cases h

namespace Overlay

variable {tolerance : Tolerance} {options : Options} {p : Prop}

/-- Every option has a value that a command line can give. -/
def Entered (options : Options) : Prop :=
  ∀ name v, options.get? name = some v → v.Entered

/-- An option that is given has a value that was entered. -/
theorem Entered.of_given? (h : Entered options) {o : CommandOption} {v : Value}
    (hv : given? options o = some v) : v.Entered := by
  unfold given? at hv
  split at hv
  · cases hv
  · cases hv
  · next w _ hw => cases hv; exact h _ _ hw

/-! ## Single options -/

/-- A text option takes a text that is not blank. -/
theorem reported_readText (h : Entered options) {o : CommandOption} (ho : o ∈ CommandOption.all) :
    Reported p (readText tolerance options o) := by
  unfold readText
  split
  · exact .ok none
  · split
    · exact .of_option ho rfl
    · exact .ok _
  · next v _ hv =>
    obtain ⟨s, hs⟩ := (h.of_given? hv).exists_text tolerance
    rw [hs]
    exact .of_option ho rfl

/-- A text that is read is the one that was given, without the blanks around it. -/
theorem given?_of_readText {o : CommandOption} {s : String}
    (h : readText tolerance options o = .ok (some s)) :
    ∃ raw, given? options o = some (.str raw) ∧ s = Text.strip raw := by
  unfold readText at h
  split at h
  · cases h
  · next raw hraw =>
    split at h
    · cases h
    · cases h; exact ⟨raw, hraw, rfl⟩
  · obtain ⟨_, -, h⟩ := bind_eq_ok.1 h
    cases h

/-- Without the blanks around it a text has no longer runs of digits. -/
theorem shortRuns_strip {s : String} (h : Text.ShortRuns s.toList) :
    Text.ShortRuns (Text.strip s).toList := by
  rw [Text.strip, String.toList_ofList]
  exact h.mono (Text.infix_trim _)

/-- A memory option takes the text of a size; only a number of too many digits fails otherwise. -/
theorem reported_readMemory (h : Entered options) {o : CommandOption} (ho : o ∈ CommandOption.all)
    (hp : p → ∀ s, given? options o = some (.str s) → Text.ShortRuns s.toList) :
    Reported p (readMemory tolerance options o) := by
  refine (reported_readText h ho).bind fun raw hraw => ?_
  cases raw with
  | none => exact .ok none
  | some s =>
    obtain ⟨given, hgiven, rfl⟩ := given?_of_readText hraw
    cases hm : MemorySize.parse (Text.strip given) with
    | ok m =>
      simp only [hm]
      exact .ok _
    | error f =>
      simp only [hm]
      rcases MemorySize.rejected hm with hfamily | ⟨hlimit, hruns⟩
      · rw [if_pos hfamily]
        exact .of_memory rfl
      · rw [if_neg (by rw [Failure.family_of_isLimit hlimit]; nofun)]
        exact .of_isLimit hlimit fun h => hruns (shortRuns_strip (hp h given hgiven))

/-- A memory size that is read is one of the text that was given. -/
theorem parse_of_readMemory {o : CommandOption} {m : MemorySize}
    (h : readMemory tolerance options o = .ok (some m)) :
    ∃ raw, given? options o = some (.str raw) ∧ MemorySize.parse (Text.strip raw) = .ok m := by
  obtain ⟨raw, hraw, h⟩ := bind_eq_ok.1 h
  cases raw with
  | none => cases h
  | some s =>
    obtain ⟨given, hgiven, rfl⟩ := given?_of_readText hraw
    cases hm : MemorySize.parse (Text.strip given) with
    | error f => simp [hm, throw, throwThe, MonadExceptOf.throw] at h
    | ok m' =>
      simp only [hm] at h
      cases h
      exact ⟨given, hgiven, hm⟩

/-- The option for the application takes the text of an ID, with the same exception. -/
theorem reported_readClusterId (h : Entered options)
    (hp : p → ∀ s, given? options .applicationId = some (.str s) → Text.ShortRuns s.toList) :
    Reported p (readClusterId tolerance options) := by
  have ho : CommandOption.applicationId ∈ CommandOption.all := by simp [CommandOption.all]
  refine (reported_readText h ho).bind fun raw hraw => ?_
  cases raw with
  | none => exact .ok none
  | some s =>
    obtain ⟨given, hgiven, rfl⟩ := given?_of_readText hraw
    cases hid : ApplicationId.parse (Text.strip given) with
    | ok id =>
      simp only [hid]
      exact .ok _
    | error f =>
      simp only [hid]
      rcases ApplicationId.rejected hid with hfamily | ⟨hlimit, hruns⟩
      · rw [if_pos (by rw [Failure.isExpected, hfamily]; rfl)]
        exact .of_option ho rfl
      · rw [if_neg (by rw [Failure.isExpected, Failure.family_of_isLimit hlimit]; nofun)]
        exact .of_isLimit hlimit fun h => hruns (shortRuns_strip (hp h given hgiven))

/-- The option for the slots takes the text of a number that is at least one. -/
theorem reported_readSlots (h : Entered options) : Reported p (readSlots tolerance options) := by
  have ho : CommandOption.slots ∈ CommandOption.all := by simp [CommandOption.all]
  unfold readSlots
  split
  · exact .ok none
  · next v hv =>
    obtain ⟨s, hs⟩ := (h.of_given? hv).exists_text tolerance
    rw [hs]
    refine .bind (.ok s) fun text _ => ?_
    split
    · next i hi =>
      have hw := Text.isWritable_of_readInt hi
      by_cases hlt : i < 1
      · rw [if_pos hlt, writeInt_eq_ok hw]
        exact .of_option ho rfl
      · rw [if_neg hlt]
        exact .ok _
    · exact .of_option ho rfl

/-- The number of slots can be written, since it was read. -/
theorem isWritable_of_readSlots {i : Int} (h : readSlots tolerance options = .ok (some i)) :
    Text.isWritable i = true := by
  obtain ⟨-, text, htext⟩ := one_le_of_readSlots h
  exact Text.isWritable_of_readInt htext

/-- A list option takes a sequence of texts. -/
theorem reported_readList (h : Entered options) {o : CommandOption} (ho : o ∈ CommandOption.all) :
    Reported p (readList tolerance options o) := by
  unfold readList
  split
  · exact .ok []
  · exact .ok _
  · next v _ hv =>
    cases h.of_given? hv with
    | null | bool => exact .of_option ho rfl
    | str s => exact .of_option ho rfl
    | list ss | tuple ss =>
      show Reported p (ConfigOption.texts tolerance (ss.map .str))
      rw [ConfigOption.texts, ConfigOption.mapM_map_str fun _ => rfl]
      exact .ok ss

end Overlay

end ClusterPlan
