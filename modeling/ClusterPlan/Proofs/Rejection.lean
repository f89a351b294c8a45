import ClusterPlan.ConfigOption
import ClusterPlan.Proofs.ApplicationId
import ClusterPlan.Proofs.Format

/-!
# Texts that are rejected

A text that an option cannot turn into a value of its type is rejected with a failure of the user's making,
which is one of memory for a memory size and a general one otherwise. The exception are limits: a run of too
many digits, and a duration that is too long, are found out by the arithmetic and fail in their own way. So
each rejection comes with its reason (`ConfigOption.rejected`), and below the limits there are no others.
-/

namespace ClusterPlan

/-- A failure of arithmetic at one of the limits of numbers. -/
def Failure.isLimit : Failure → Bool
  | .numeralTooLong _ | .numberTooLong | .durationDays _ | .durationRange => true
  | _ => false

/-- A failure at a limit is not one that a user is told to mend. -/
theorem Failure.family_of_isLimit {f : Failure} (h : f.isLimit = true) : f.family = .unexpected := by
  cases f with
  | numeralTooLong | numberTooLong | durationDays | durationRange => rfl
  | _ => cases h

/-- When a sequence of two computations fails, then the first one does, or the second one on what the first
one gave. -/
theorem bind_eq_error {ε α β : Type} {x : Except ε α} {g : α → Except ε β} {e : ε} :
    x >>= g = .error e ↔ x = .error e ∨ ∃ a, x = .ok a ∧ g a = .error e := by
  cases x <;> simp [bind, Except.bind]

/-- A list that cannot be gone through to its end has a first item that fails. -/
theorem mapM_eq_error_iff {α β : Type} {as : List α} {g : α → Except Failure β} {f : Failure} :
    as.mapM g = .error f ↔ ∃ front a back, as = front ++ a :: back ∧ (∀ x ∈ front, ∃ b, g x = .ok b) ∧
      g a = .error f := by
  induction as with
  | nil => exact ⟨nofun, fun ⟨front, a, back, h, _⟩ => by simp at h⟩
  | cons a as ih =>
    rw [List.mapM_cons, bind_eq_error]
    constructor
    · rintro (h | ⟨b, hb, h⟩)
      · exact ⟨[], a, as, rfl, nofun, h⟩
      · rcases bind_eq_error.1 h with h | ⟨bs, -, h⟩
        · obtain ⟨front, x, back, rfl, hfront, hx⟩ := ih.1 h
          exact ⟨a :: front, x, back, rfl, List.forall_mem_cons.2 ⟨⟨b, hb⟩, hfront⟩, hx⟩
        · cases h
    · rintro ⟨front, x, back, h, hfront, hx⟩
      cases front with
      | nil =>
        obtain ⟨rfl, rfl⟩ := List.cons.inj h
        exact .inl hx
      | cons y front =>
        obtain ⟨rfl, rfl⟩ := List.cons.inj h
        obtain ⟨⟨b, hb⟩, hfront⟩ := List.forall_mem_cons.1 hfront
        exact .inr ⟨b, hb, bind_eq_error.2 (.inl (ih.2 ⟨front, x, back, rfl, hfront, hx⟩))⟩

/-- A check of some values fails at one of them. -/
theorem exists_of_forM_eq_error {α : Type} {as : List α} {g : α → Except Failure Unit} {f : Failure}
    (h : as.forM g = .error f) : ∃ a ∈ as, g a = .error f := by
  induction as with
  | nil => cases h
  | cons a as ih =>
    rcases bind_eq_error.1 h with h | ⟨-, -, h⟩
    · exact ⟨a, List.mem_cons_self, h⟩
    · obtain ⟨b, hb, h⟩ := ih h
      exact ⟨b, List.mem_cons_of_mem _ hb, h⟩

/-! ## Values without a text -/

/-- A whole number has no text only if it is too long. -/
theorem eq_numberTooLong_of_writeInt {i : Int} {f : Failure} (h : writeInt i = .error f) :
    f = .numberTooLong := by
  unfold writeInt at h
  split at h
  · cases h
  · exact (Except.error.inj h).symm

namespace Value

/-- Items without a text have one among them that has none, for the same reason. -/
theorem exists_of_quotedItems_eq_error {vs : List Value} {f : Failure} (h : quotedItems vs = .error f) :
    ∃ v ∈ vs, v.quoted = .error f := by
  induction vs with
  | nil => cases h
  | cons v vs ih =>
    rw [quotedItems] at h
    rcases bind_eq_error.1 h with h | ⟨_, -, h⟩
    · exact ⟨v, List.mem_cons_self, h⟩
    · rcases bind_eq_error.1 h with h | ⟨_, -, h⟩
      · exact (ih h).imp fun w hw => ⟨List.mem_cons_of_mem _ hw.1, hw.2⟩
      · cases h

/-- Entries without a text have a key or a value among them that has none, for the same reason. -/
theorem exists_of_quotedEntries_eq_error {es : List (Value × Value)} {f : Failure}
    (h : quotedEntries es = .error f) : ∃ e ∈ es, e.1.quoted = .error f ∨ e.2.quoted = .error f := by
  induction es with
  | nil => cases h
  | cons e es ih =>
    rw [quotedEntries] at h
    rcases bind_eq_error.1 h with h | ⟨_, -, h⟩
    · refine ⟨e, List.mem_cons_self, ?_⟩
      rw [quotedEntry.eq_def] at h
      rcases bind_eq_error.1 h with h | ⟨_, -, h⟩
      · exact .inl h
      · rcases bind_eq_error.1 h with h | ⟨_, -, h⟩
        · exact .inr h
        · cases h
    · rcases bind_eq_error.1 h with h | ⟨_, -, h⟩
      · exact (ih h).imp fun w hw => ⟨List.mem_cons_of_mem _ hw.1, hw.2⟩
      · cases h

end Value

/-! ## Runs of digits -/

namespace Text

/-- No run of digits in the text is longer than the limit. -/
def ShortRuns (cs : List Char) : Prop :=
  ∀ run, run <:+: cs → (∀ c ∈ run, isDigit c = true) → run.length ≤ digitLimit

theorem ShortRuns.mono {cs ds : List Char} (h : ShortRuns cs) (hi : ds <:+: cs) : ShortRuns ds :=
  fun run hr => h run (hr.trans hi)

/-- A short text has short runs only. -/
theorem ShortRuns.of_length {cs : List Char} (h : cs.length ≤ digitLimit) : ShortRuns cs :=
  fun _ hr _ => Nat.le_trans hr.length_le h

theorem infix_trimStart (cs : List Char) : trimStart cs <:+: cs :=
  (List.dropWhile_suffix _).isInfix

theorem infix_trimEnd (cs : List Char) : trimEnd cs <:+: cs := by
  rw [← List.reverse_infix, trimEnd, List.reverse_reverse]
  exact (List.dropWhile_suffix _).isInfix

theorem infix_trim (cs : List Char) : trim cs <:+: cs :=
  (infix_trimEnd _).trans (infix_trimStart cs)

end Text

theorem readDigits_of_shortRuns {cs ds : List Char} (h : Text.ShortRuns cs) (hi : ds <:+: cs)
    (hd : ∀ c ∈ ds, Text.isDigit c = true) : readDigits ds = .ok (Text.ofDigits ds) :=
  if_pos (h ds hi hd)

/-- Digits are not read only if there are too many of them. -/
theorem rejected_of_readDigits {cs ds : List Char} {f : Failure} (hi : ds <:+: cs)
    (hd : ∀ c ∈ ds, Text.isDigit c = true) (h : readDigits ds = .error f) :
    f.isLimit = true ∧ ¬ Text.ShortRuns cs := by
  refine ⟨?_, fun hs => ?_⟩
  · unfold readDigits at h
    split at h
    · cases h
    · cases h; rfl
  · rw [readDigits_of_shortRuns hs hi hd] at h
    cases h

/-! ## Sizes, durations and application IDs -/

/-- Why a text is no memory size. -/
theorem MemorySize.rejected {s : String} {f : Failure} (h : parse s = .error f) :
    f.family = .memory ∨ f.isLimit = true ∧ ¬ Text.ShortRuns s.toList := by
  rcases parse_eq_error h with hf | ⟨q, hq, hf⟩
  · exact .inl hf
  · exact .inr (rejected_of_readDigits hq.infix hq.isDigit hf)

namespace Duration

/-- The duration that a text denotes, if it denotes any, has no more whole days than there can be. -/
def Fits (s : String) : Prop :=
  ∀ q unit, Text.Quantity.read? s.toList = some q → TimeUnit.ofName? q.unitName = some unit →
    (Text.ofDigits q.digits * unit.micros : Int) < (maxDays + 1) * TimeUnit.day.micros

/-- A number of microseconds is a duration if it has no more whole days than there can be. -/
theorem ofMicros_of_lt {n : Nat} (h : (n : Int) < (maxDays + 1) * TimeUnit.day.micros) :
    ofMicros n = .ok ⟨n⟩ := by
  refine ofMicros_eq_ok_iff.2 ⟨?_, rfl⟩
  simp only [maxDays, limit, TimeUnit.micros] at h ⊢
  omega

theorem isLimit_of_ofMicros {i : Int} {f : Failure} (h : ofMicros i = .error f) : f.isLimit = true := by
  simp only [ofMicros] at h
  split at h
  · cases h
  · split at h <;> · cases h; rfl

/-- Why a text is no duration. -/
theorem rejected {s : String} {f : Failure} (h : parse s = .error f) :
    f.family = .general ∨ f.isLimit = true ∧ ¬ (Text.ShortRuns s.toList ∧ Fits s) := by
  unfold parse at h
  split at h
  · cases h; exact .inl rfl
  · next q hq =>
    have hspells := Text.Quantity.spells_of_read? hq
    split at h
    · cases h; exact .inl rfl
    · next unit hu =>
      rcases bind_eq_error.1 h with h | ⟨n, hn, h⟩
      · have ⟨hlimit, hruns⟩ := rejected_of_readDigits hspells.infix hspells.isDigit h
        exact .inr ⟨hlimit, fun hs => hruns hs.1⟩
      · refine .inr ⟨isLimit_of_ofMicros h, fun ⟨hruns, hfits⟩ => ?_⟩
        obtain rfl := (readDigits_eq_ok_iff.1 hn).2
        have hlt := hfits q unit hq hu
        rw [← Int.natCast_mul] at hlt h
        rw [ofMicros_of_lt hlt] at h
        cases h

end Duration

namespace ApplicationId

/-- Why a text is no application ID. -/
theorem rejected {s : String} {f : Failure} (h : parse s = .error f) :
    f.family = .general ∨ f.isLimit = true ∧ ¬ Text.ShortRuns s.toList := by
  unfold parse at h
  split at h
  · cases h; exact .inl rfl
  · next timestamp sequence hsplit =>
    obtain ⟨hcs, -, -, ht, hq⟩ := runs_of_split? hsplit
    have hpart : timestamp ++ '_' :: sequence <:+: s.toList :=
      (hcs ▸ (List.suffix_append leader _).isInfix).trans (Text.infix_trim _)
    have htime : timestamp <:+: s.toList := (List.prefix_append ..).isInfix.trans hpart
    have hseq : sequence <:+: s.toList :=
      ((List.suffix_cons '_' sequence).trans (List.suffix_append ..)).isInfix.trans hpart
    rcases bind_eq_error.1 h with h | ⟨n, -, h⟩
    · exact .inr (rejected_of_readDigits htime ht h)
    · rcases bind_eq_error.1 h with h | ⟨m, -, h⟩
      · exact .inr (rejected_of_readDigits hseq hq h)
      · cases h

end ApplicationId

/-! ## Options -/

namespace ConfigOption

/-- The text is within the limits that conversion to the type of the option comes upon. -/
def WithinLimits (o : ConfigOption) (s : String) : Prop :=
  match o.type with
  | .memory => Text.ShortRuns s.toList
  | .duration => Text.ShortRuns s.toList ∧ Duration.Fits s
  | _ => True

/-- Why an option does not convert a value. -/
inductive Refuses (tolerance : Tolerance) (o : ConfigOption) : Value → Failure → Prop
  | missing : Refuses tolerance o .null (.valueMissing o.key)
  | unwritable {v : Value} {f : Failure} : v.text tolerance = .error f → Refuses tolerance o v f
  | integer {v : Value} {s : String} : o.type = .integer → v.text tolerance = .ok s →
      Refuses tolerance o v (.notInteger o.key s)
  | boolean {v : Value} {s : String} : o.type = .boolean → v.text tolerance = .ok s →
      Refuses tolerance o v (.notBoolean o.key s)
  | memory {v : Value} {s : String} {f : Failure} : o.type = .memory → v.text tolerance = .ok s →
      MemorySize.parse s = .error f → Refuses tolerance o v f
  | duration {v : Value} {s : String} {f : Failure} : o.type = .duration → v.text tolerance = .ok s →
      Duration.parse s = .error f → Refuses tolerance o v f
  | list {items : List Value} {f : Failure} : texts tolerance items = .error f →
      Refuses tolerance o (.list items) f
  | knot {text : Except Failure String} {items : List Value} {f : Failure} :
      texts tolerance items = .error f → Refuses tolerance o (.knot true text items) f
  | tuple {items : List Value} {f : Failure} : texts tolerance items = .error f →
      Refuses tolerance o (.tuple items) f
  | notList {v : Value} {s : String} : o.type = .list → (∀ t, v ≠ .str t) → v.text tolerance = .ok s →
      Refuses tolerance o v (.notList o.key s)

/-- A conversion that fails does so for one of these reasons. -/
theorem refuses_of_convert {tolerance : Tolerance} {o : ConfigOption} {v : Value} {f : Failure}
    (h : o.convert tolerance v = .error f) : o.Refuses tolerance v f := by
  have of_text {g : String → Except Failure Value} (h : v.text tolerance >>= g = .error f)
      (hg : ∀ s, v.text tolerance = .ok s → g s = .error f → o.Refuses tolerance v f) :
      o.Refuses tolerance v f :=
    (bind_eq_error.1 h).elim .unwritable fun ⟨s, hs, h⟩ => hg s hs h
  have of_texts {items : List Value} (h : (do return Value.list ((← texts tolerance items).map .str)) =
      Except.error f) : texts tolerance items = .error f :=
    (bind_eq_error.1 h).elim id fun ⟨_, _, h⟩ => nomatch h
  unfold convert at h
  split at h
  case h_1 => cases h; exact .missing
  case h_2 => exact of_text h fun _ _ => nofun
  case h_3 => cases h
  case h_4 ht _ _ =>
    refine of_text h fun s hs h => ?_
    split at h <;> cases h
    exact .integer ht hs
  case h_5 => cases h
  case h_6 ht _ _ =>
    refine of_text h fun s hs h => ?_
    split at h <;> cases h
    exact .boolean ht hs
  case h_7 => cases h
  case h_8 ht _ _ =>
    refine of_text h fun s hs h => ?_
    rcases bind_eq_error.1 h with h | ⟨_, -, h⟩
    · exact .memory ht hs h
    · cases h
  case h_9 => cases h
  case h_10 ht _ _ =>
    refine of_text h fun s hs h => ?_
    rcases bind_eq_error.1 h with h | ⟨_, -, h⟩
    · exact .duration ht hs h
    · cases h
  case h_11 => cases h
  case h_12 => exact .list (of_texts h)
  case h_13 => exact .knot (of_texts h)
  case h_14 => exact .tuple (of_texts h)
  case h_15 ht _ hstr _ _ _ =>
    refine of_text h fun s hs h => ?_
    cases h
    exact .notList ht hstr hs

/-- **Why an option rejects a text.** The failure is one of memory if the option is, and else a general one;
or the text goes beyond one of the limits. -/
theorem rejected {tolerance : Tolerance} {o : ConfigOption} {s : String} {f : Failure}
    (h : o.convert tolerance (.str s) = .error f) :
    (o.type = .memory ∧ f.family = .memory) ∨ (o.type ≠ .memory ∧ f.family = .general) ∨
      (f.isLimit = true ∧ ¬ o.WithinLimits s) := by
  cases refuses_of_convert h with
  | unwritable h => cases h
  | integer ht | boolean ht => exact .inr (.inl ⟨by rw [ht]; nofun, rfl⟩)
  | memory ht hs hf =>
    cases hs
    rw [WithinLimits, ht]
    exact (MemorySize.rejected hf).imp (fun hf => ⟨rfl, hf⟩) .inr
  | duration ht hs hf =>
    cases hs
    rw [WithinLimits, ht]
    exact .inr ((Duration.rejected hf).imp_left fun hf => ⟨nofun, hf⟩)
  | notList _ hne => exact absurd rfl (hne s)

end ConfigOption

end ClusterPlan
