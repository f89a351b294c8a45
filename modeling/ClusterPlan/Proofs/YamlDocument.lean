import ClusterPlan.Proofs.Rejection
import ClusterPlan.Yaml.Document

/-!
# What documents hold

A document that is read holds no sizes and no durations, and what is inside of itself is known by its text
(`Value.Documented`), so the only reason why a value of a document has no text is a number that is too long
(`Value.Documented.text_eq_error`). A document that is not read because a tag or a scalar in it is impossible
ends in a failure of the arithmetic or the calendar, which nobody reports as one of the user. Both are one
statement about each reader (`Yaml.Reads`), and in the end about the document (`Yaml.reads_read`).
-/

namespace ClusterPlan

/-! ## Values and their texts -/

/-- The values that a document can hold. -/
inductive Value.Documented : Value → Prop
  | null : Documented .null
  | bool (b : Bool) : Documented (.bool b)
  | int (i : Int) : Documented (.int i)
  | float (x : Binary64) : Documented (.float x)
  | str (s : String) : Documented (.str s)
  | moment (m : Moment) : Documented (.moment m)
  | bytes (data : List UInt8) : Documented (.bytes data)
  | list {items : List Value} : (∀ v ∈ items, Documented v) → Documented (.list items)
  | tuple {items : List Value} : (∀ v ∈ items, Documented v) → Documented (.tuple items)
  | set {items : List Value} : (∀ v ∈ items, Documented v) → Documented (.set items)
  | mapping {entries : List (Value × Value)} : (∀ e ∈ entries, Documented e.1) →
      (∀ e ∈ entries, Documented e.2) → Documented (.mapping entries)
  | knot {isList : Bool} {text : Except Failure String} {items : List Value} :
      (∀ f, text = .error f → f = .numberTooLong) → (∀ v ∈ items, Documented v) →
      Documented (.knot isList text items)

namespace Value

/-- A value of a document without a quoted text has a number in it that is too long. -/
theorem Documented.quoted_eq_error {v : Value} (h : v.Documented) {f : Failure}
    (hf : v.quoted = .error f) : f = .numberTooLong := by
  have of_items {items : List Value} (ih : ∀ v ∈ items, v.quoted = .error f → f = .numberTooLong)
      (h : quotedItems items = .error f) : f = .numberTooLong := by
    obtain ⟨v, hv, hquoted⟩ := exists_of_quotedItems_eq_error h
    exact ih v hv hquoted
  induction h with
  | null | bool | float | str | moment | bytes => cases hf
  | int i => exact eq_numberTooLong_of_writeInt hf
  | list _ ih | tuple _ ih =>
    rw [quoted.eq_def] at hf
    rcases bind_eq_error.1 hf with hf | ⟨_, -, hf⟩
    · exact of_items ih hf
    · cases hf
  | set _ ih =>
    rw [quoted.eq_def] at hf
    dsimp only at hf
    split at hf
    · cases hf
    · rcases bind_eq_error.1 hf with hf | ⟨_, -, hf⟩
      · exact of_items ih hf
      · cases hf
  | mapping _ _ ihkey ihvalue =>
    rw [quoted.eq_def] at hf
    rcases bind_eq_error.1 hf with hf | ⟨_, -, hf⟩
    · obtain ⟨e, he, hkey | hvalue⟩ := exists_of_quotedEntries_eq_error hf
      · exact ihkey e he hkey
      · exact ihvalue e he hvalue
    · cases hf
  | knot htext _ _ => exact htext f hf

end Value

namespace Yaml

/-! ## What comes of reading -/

section
variable {α β : Type} {P : α → Prop} {Q : β → Prop}

/-- What reading may come to: a value that satisfies `P`, or a failure, which is not reported as the user's if
it is not due to the form of the document. -/
def Reads (P : α → Prop) : Result α → Prop
  | .ok a => P a
  | .error (.impossible f) => f.family = .unexpected
  | .error _ => True

/-- Of what is read nothing is known, but its failures are as `Reads` says. -/
abbrev Unexpected (x : Result α) : Prop := Reads (fun _ => True) x

namespace Reads

/-- What was read is as `Reads` says. -/
theorem value {x : Result α} (h : Reads P x) {a : α} (hx : x = .ok a) : P a := by
  rwa [hx] at h

/-- A failure that is not due to the form of the document is none of the user. -/
theorem family {x : Result α} (h : Reads P x) {f : Failure} (hx : x = .error (.impossible f)) :
    f.family = .unexpected := by
  rwa [hx] at h

/-- A value that is there without reading. -/
theorem ok {a : α} (h : P a) : Reads P (.ok a) := h

/-- Less may be said of the value. -/
theorem weaken {R : α → Prop} {x : Result α} (h : Reads P x) (hPR : ∀ a, P a → R a) : Reads R x := by
  cases x with
  | ok a => exact hPR a h
  | error e => cases e with
    | impossible => exact h
    | malformed | cut => trivial

/-- A fault in the form of the document is not looked into any further. -/
theorem malformed : Reads P (.error .malformed) := trivial

/-- A failure that is none of the user may stop the reading. -/
theorem fail {f : Failure} (h : f.family = .unexpected) : Reads P (Yaml.fail f) := h

/-- Reading on after something has been read. -/
theorem bind {x : Result α} {g : α → Result β} (hx : Reads P x) (hg : ∀ a, P a → Reads Q (g a)) :
    Reads Q (x >>= g) := by
  cases x with
  | ok a => exact hg a hx
  | error e => cases e with
    | impossible => exact hx
    | malformed | cut => trivial

/-- Reading something and making something else of it. -/
theorem map {x : Result α} {g : α → β} (hx : Reads P x) (hg : ∀ a, P a → Q (g a)) : Reads Q (g <$> x) := by
  rw [map_eq_pure_bind]
  exact hx.bind fun a ha => ok (hg a ha)

/-- Reading one thing after the other. -/
theorem mapM {as : List α} {g : α → Result β} (hg : ∀ a, Reads Q (g a)) :
    Reads (fun bs => ∀ b ∈ bs, Q b) (as.mapM g) := by
  induction as with
  | nil => exact ok nofun
  | cons a as ih =>
    rw [List.mapM_cons]
    exact (hg a).bind fun b hb => ih.bind fun bs hbs => ok (List.forall_mem_cons.2 ⟨hb, hbs⟩)

end Reads

end

/-! ## Scalars -/

namespace Scalar

/-! Each form of a scalar is read by the same steps that it is written in; every step fails only for numbers,
words and dates that are none. -/

/-- A numeral without characters has no sign to look at. -/
theorem unexpected_splitSign (cs : List Char) : Unexpected (splitSign cs) := by
  unfold splitSign
  split
  · exact .fail rfl
  all_goals exact .ok trivial

/-- Digits of a base are read, or they are none. -/
theorem unexpected_inBase (base : Nat) (cs : List Char) : Unexpected (inBase base cs) := by
  unfold inBase
  split
  · exact .ok trivial
  · exact .fail rfl

/-- Decimal digits are read, or they are none or too many. -/
theorem unexpected_decimal (cs : List Char) : Unexpected (decimal cs) := by
  unfold decimal
  split
  · exact .ok trivial
  · exact .fail rfl
  · exact .fail rfl

/-- A truth value is one of the words for them. -/
theorem reads_bool (text : String) : Reads Value.Documented (bool text) := by
  unfold bool
  dsimp only
  split
  · exact .ok (.bool _)
  split
  · exact .ok (.bool _)
  · exact .fail rfl

/-- A whole number in any of its forms. -/
theorem reads_int (text : String) : Reads Value.Documented (int text) := by
  unfold int
  refine (unexpected_splitSign _).bind fun sign _ => ?_
  dsimp only
  split
  · exact .ok (.int _)
  · exact (unexpected_inBase _ _).bind fun _ _ => .ok (.int _)
  · exact (unexpected_inBase _ _).bind fun _ _ => .ok (.int _)
  · exact (unexpected_inBase _ _).bind fun _ _ => .ok (.int _)
  · exact .fail rfl
  · split
    · exact (Reads.mapM unexpected_decimal).bind fun _ _ => .ok (.int _)
    · exact (unexpected_decimal _).bind fun _ _ => .ok (.int _)

/-- Between two colons there is a floating-point number, or there is none. -/
theorem unexpected_floatPart (cs : List Char) : Unexpected (floatPart cs) := by
  unfold floatPart
  split
  · exact .ok trivial
  · exact .fail rfl

/-- A number that is counted in sixties runs out of floating-point numbers at the worst. -/
theorem unexpected_floatInSixties (sum : Binary64) (base : Int) (parts : List Binary64) :
    Unexpected (floatInSixties sum base parts) := by
  induction parts generalizing sum base with
  | nil => exact .ok trivial
  | cons x xs ih =>
    rw [floatInSixties]
    split
    · exact ih _ _
    · exact .fail rfl

/-- A floating-point number in any of its forms. -/
theorem reads_float (text : String) : Reads Value.Documented (float text) := by
  unfold float
  refine (unexpected_splitSign _).bind fun sign _ => ?_
  dsimp only
  split
  · exact .ok (.float _)
  split
  · exact .ok (.float _)
  split
  · exact (Reads.mapM unexpected_floatPart).bind fun parts _ =>
      (unexpected_floatInSixties _ _ _).bind fun _ _ => .ok (.float _)
  · exact (unexpected_floatPart _).bind fun _ _ => .ok (.float _)

/-- Bytes are written in base 64; anything else is a fault of the form. -/
theorem reads_binary (text : String) : Reads Value.Documented (binary text) := by
  unfold binary
  dsimp only
  split
  · split
    · exact .ok (.bytes _)
    · exact .malformed
  · exact .malformed

/-- Two computations one after the other, lifted one by one. -/
theorem lift_bind {α β : Type} (x : Except Failure α) (g : α → Except Failure β) :
    lift (x >>= g) = lift x >>= fun a => lift (g a) := by
  cases x <;> rfl

/-- What is made of a computation is made of the lifted one. -/
theorem lift_map {α β : Type} (g : α → β) (x : Except Failure α) : lift (g <$> x) = g <$> lift x := by
  cases x <;> rfl

/-- A date that the calendar does not know. -/
theorem unexpected_makeDate (year month day : Nat) : Unexpected (lift (Date.make year month day)) := by
  unfold Date.make
  split
  · exact .fail rfl
  split
  · exact .fail rfl
  split
  · exact .fail rfl
  · exact .ok trivial

/-- A time that the clock does not show. -/
theorem unexpected_makeTime (hour minute second micros : Nat) :
    Unexpected (lift (Time.make hour minute second micros)) := by
  unfold Time.make
  split
  · exact .fail rfl
  split
  · exact .fail rfl
  split
  · exact .fail rfl
  · exact .ok trivial

/-- An offset of a day or more is none. -/
theorem unexpected_makeOffset (minutes : Int) : Unexpected (lift (Offset.make minutes)) := by
  unfold Offset.make
  split
  · exact .ok trivial
  · exact .fail rfl

/-- The offset that is written at a time, or the one of the meridian. -/
theorem unexpected_offset (w : Tag.WrittenOffset) : Unexpected (lift (offset w)) := by
  unfold offset
  split
  · exact .ok trivial
  · exact unexpected_makeOffset _

/-- A moment fails with its offset, its date or its time. -/
theorem unexpected_moment (w : Tag.WrittenTime) : Unexpected (lift (moment w)) := by
  unfold moment
  extract_lets fraction behindOffset
  -- the date and the time are checked alike with an offset and without one
  have hdate (offset : Option Offset) : Unexpected (lift (behindOffset offset)) := by
    unfold behindOffset
    rw [lift_bind]
    refine (unexpected_makeDate _ _ _).bind fun date _ => ?_
    split
    · exact .ok trivial
    · rw [lift_bind]
      exact (unexpected_makeTime _ _ _ _).bind fun _ _ => .ok trivial
  split
  · next w _ =>
    have hoffset : Unexpected (some <$> lift (offset w)) := (unexpected_offset w).map fun _ _ => trivial
    rw [lift_bind, lift_map]
    exact hoffset.bind fun offset _ => hdate offset
  · exact hdate none

/-- A moment is read from a text of its form. -/
theorem reads_timestamp (text : String) : Reads Value.Documented (timestamp text) := by
  unfold timestamp
  split
  · exact (unexpected_moment _).map fun m _ => .moment m
  · exact .fail rfl

/-- **A scalar** is a value that a document can hold, or fails in a way that is not reported as the user's. -/
theorem reads_value (tag : Tag) (text : String) : Reads Value.Documented (value tag text) := by
  unfold value
  split
  · exact .ok .null
  · exact reads_bool text
  · exact reads_int text
  · exact reads_float text
  · exact reads_binary text
  · exact reads_timestamp text
  · exact .ok (.str _)
  · exact .malformed

end Scalar

/-! ## Nodes -/

section
variable {α β σ : Type}

/-- The steps fail as `Unexpected` says, from any state. -/
def UnexpectedSteps (x : StateT σ (Except Fault) α) : Prop :=
  ∀ s, Unexpected (x s)

namespace UnexpectedSteps

/-- Nothing is done. -/
theorem pure (a : α) : UnexpectedSteps (Pure.pure a : StateT σ (Except Fault) α) := fun _ => trivial

/-- The state is looked at. -/
theorem get : UnexpectedSteps (MonadState.get : StateT σ (Except Fault) σ) := fun _ => trivial

/-- The state is replaced. -/
theorem set (s : σ) : UnexpectedSteps (MonadStateOf.set s : StateT σ (Except Fault) PUnit) := fun _ => trivial

/-- The state is changed. -/
theorem change (g : σ → σ) : UnexpectedSteps (modify g : StateT σ (Except Fault) PUnit) :=
  fun _ => trivial

/-- The form of the document is at fault. -/
theorem malformed : UnexpectedSteps (throw .malformed : StateT σ (Except Fault) α) := fun _ => trivial

/-- Something is read apart from the state. -/
theorem lift {x : Result α} (h : Unexpected x) : UnexpectedSteps (liftM x : StateT σ (Except Fault) α) :=
  fun _ => h.bind fun _ _ => trivial

/-- One step after the other. -/
theorem bind {x : StateT σ (Except Fault) α} {g : α → StateT σ (Except Fault) β}
    (hx : UnexpectedSteps x) (hg : ∀ a, UnexpectedSteps (g a)) : UnexpectedSteps (x >>= g) :=
  fun s => (hx s).bind fun r _ => hg r.1 r.2

/-- Either of two ways is taken. -/
theorem ite {p : Prop} [Decidable p] {x y : StateT σ (Except Fault) α} (hx : UnexpectedSteps x)
    (hy : UnexpectedSteps y) : UnexpectedSteps (if p then x else y) := by
  split
  · exact hx
  · exact hy

/-- What a step gives is not looked at. -/
theorem discard {x : StateT σ (Except Fault) α} (hx : UnexpectedSteps x) : UnexpectedSteps (discard x) :=
  fun s => (hx s).bind fun _ _ => trivial

/-- A step for each of some things. -/
theorem forM {as : List α} {g : α → StateT σ (Except Fault) PUnit} (hg : ∀ a, UnexpectedSteps (g a)) :
    UnexpectedSteps (as.forM g) := by
  induction as with
  | nil => exact pure _
  | cons a as ih => exact (hg a).bind fun _ => ih

end UnexpectedSteps

end

namespace Graph

open UnexpectedSteps

/-! The readers of nodes fail for the form of the document only, but for the tag that is decoded. Each lemma
follows its reader. -/

/-- Where the tokens are over, what has ended them is a fault of the form or of the bytes. -/
theorem unexpected_peek : UnexpectedSteps peek := by
  unfold peek
  refine get.bind fun s => ?_
  split
  · exact pure _
  · exact pure _
  · next halt _ _ => cases halt <;> exact fun _ => trivial

/-- A token is passed over. -/
theorem unexpected_pass : UnexpectedSteps pass := change _

/-- A token is passed over if it is the one in question. -/
theorem unexpected_passIf (t : Token) : UnexpectedSteps (passIf t) :=
  unexpected_peek.bind fun _ => ite (unexpected_pass.bind fun _ => pure _) (pure _)

/-- A tag may stand in front of a node. -/
theorem unexpected_readTag : UnexpectedSteps readTag := by
  unfold readTag
  refine unexpected_peek.bind fun t => ?_
  split
  · exact unexpected_pass.bind fun _ => pure _
  · exact pure _

/-- So may an anchor. -/
theorem unexpected_readAnchor : UnexpectedSteps readAnchor := by
  unfold readAnchor
  refine unexpected_peek.bind fun t => ?_
  split
  · exact unexpected_pass.bind fun _ => pure _
  · exact pure _

/-- The two may come in either order. -/
theorem unexpected_readProperties : UnexpectedSteps readProperties := by
  unfold readProperties
  refine unexpected_readAnchor.bind fun anchor => ?_
  split
  · exact unexpected_readTag.bind fun _ => pure _
  · refine unexpected_readTag.bind fun tag => ?_
    split
    · exact unexpected_readAnchor.bind fun _ => pure _
    · exact pure _

/-- The handle of a tag has to be known. -/
theorem unexpected_tagBytes (tag : Option (String × List UInt8)) : UnexpectedSteps (tagBytes tag) := by
  unfold tagBytes
  split
  · exact pure _
  · refine ite (pure _) (get.bind fun s => ?_)
    split
    · exact pure _
    · exact UnexpectedSteps.malformed

/-- A tag whose bytes are no text. -/
theorem unexpected_decodeTag (bytes : Option (List UInt8)) : UnexpectedSteps (decodeTag bytes) := by
  unfold decodeTag
  split
  · exact pure _
  · split
    · exact pure _
    · exact fun _ => .fail rfl

/-- A new node gets the next number. -/
theorem unexpected_add (n : Node) : UnexpectedSteps (add n) :=
  get.bind fun _ => (change _).bind fun _ => pure _

/-- A name that is given to a node has not been given before. -/
theorem unexpected_reserve (anchor : Option String) : UnexpectedSteps (reserve anchor) := by
  unfold reserve
  refine (unexpected_add _).bind fun number => ?_
  dsimp only
  split
  · have hname (g : Source → Source) := (change g).bind fun _ => pure number
    exact get.bind fun s => ite (UnexpectedSteps.malformed.bind fun _ => hname _) (hname _)
  · exact pure _

/-- The inside of a node is filled in once it has been read. -/
theorem unexpected_define (number : Nat) (n : Node) : UnexpectedSteps (define number n) :=
  (change _).bind fun _ => pure _

/-- A name refers to a node that has it. -/
theorem unexpected_named (name : String) : UnexpectedSteps (named name) := by
  unfold named
  refine get.bind fun s => ?_
  split
  · exact ite ((set _).bind fun _ => pure _) (pure _)
  · exact UnexpectedSteps.malformed

/-- What is read with some fuel fails like this. -/
structure UnexpectedReads (fuel : Nat) : Prop where
  node : ∀ block sameColumn, UnexpectedSteps (read fuel block sameColumn)
  blockItems : UnexpectedSteps (blockItems fuel)
  sameColumnItems : UnexpectedSteps (sameColumnItems fuel)
  blockEntries : UnexpectedSteps (blockEntries fuel)
  flowItems : ∀ first, UnexpectedSteps (flowItems fuel first)
  flowEntries : ∀ first, UnexpectedSteps (flowEntries fuel first)
  pair : UnexpectedSteps (flowPair fuel)
  nodeUnless : ∀ block sameColumn stops, UnexpectedSteps (readUnless fuel block sameColumn stops)

section
variable {fuel : Nat}

/-- A node of any kind, behind its properties. -/
theorem unexpected_succ_node (h : UnexpectedReads fuel) (block sameColumn : Bool) :
    UnexpectedSteps (read (fuel + 1) block sameColumn) := by
  rw [read]
  refine unexpected_peek.bind fun t => ?_
  split
  · exact unexpected_pass.bind fun _ => unexpected_named _
  refine unexpected_readProperties.bind fun written => unexpected_peek.bind fun next => ?_
  refine (unexpected_tagBytes _).bind fun bytes => (unexpected_reserve _).bind fun number => ?_
  refine (unexpected_decodeTag _).bind fun tag => ?_
  have sequence {items : Builder (List Nat)} (hitems : UnexpectedSteps items) :
      UnexpectedSteps (do define number (.sequence (collectionTag tag .seq) (← items))) :=
    hitems.bind fun _ => unexpected_define _ _
  have mapping {entries : Builder (List (Nat × Nat))} (hentries : UnexpectedSteps entries) :
      UnexpectedSteps (do define number (.mapping (collectionTag tag .map) (← entries))) :=
    hentries.bind fun _ => unexpected_define _ _
  dsimp only
  split
  · refine ite (sequence h.sameColumnItems) ?_
    split
    · exact UnexpectedSteps.malformed
    · exact unexpected_define _ _
  · exact unexpected_pass.bind fun _ => unexpected_define _ _
  · exact unexpected_pass.bind fun _ => sequence (h.flowItems true)
  · exact unexpected_pass.bind fun _ => mapping (h.flowEntries true)
  · refine ite (unexpected_pass.bind fun _ => sequence h.blockItems) ?_
    split
    · exact UnexpectedSteps.malformed
    · exact unexpected_define _ _
  · refine ite (unexpected_pass.bind fun _ => mapping h.blockEntries) ?_
    split
    · exact UnexpectedSteps.malformed
    · exact unexpected_define _ _
  · split
    · exact UnexpectedSteps.malformed
    · exact unexpected_define _ _

/-- A node may be missing in front of certain tokens. -/
theorem unexpected_succ_nodeUnless (h : UnexpectedReads fuel) (block sameColumn : Bool)
    (stops : List Token) : UnexpectedSteps (readUnless (fuel + 1) block sameColumn stops) := by
  rw [readUnless]
  exact unexpected_peek.bind fun t => ite (unexpected_add _) (h.node block sameColumn)

/-- Items behind dashes, up to the end of their block. -/
theorem unexpected_succ_blockItems (h : UnexpectedReads fuel) :
    UnexpectedSteps (blockItems (fuel + 1)) := by
  rw [blockItems]
  refine (unexpected_passIf _).bind fun isEntry => ite ?_ ?_
  · exact (h.nodeUnless _ _ _).bind fun _ => h.blockItems.bind fun _ => pure _
  · exact (unexpected_passIf _).bind fun isEnd => ite (pure _) UnexpectedSteps.malformed

/-- Items behind dashes in the column of the mapping around them. -/
theorem unexpected_succ_sameColumnItems (h : UnexpectedReads fuel) :
    UnexpectedSteps (sameColumnItems (fuel + 1)) := by
  rw [sameColumnItems]
  refine (unexpected_passIf _).bind fun isEntry => ite ?_ (pure _)
  exact (h.nodeUnless _ _ _).bind fun _ => h.sameColumnItems.bind fun _ => pure _

/-- The value of an entry may be missing. -/
theorem unexpected_withValue {α : Type} {value : Builder Nat} {rest : Nat → Builder α}
    (hvalue : UnexpectedSteps value) (hrest : ∀ number, UnexpectedSteps (rest number)) :
    UnexpectedSteps (passIf .value >>= fun isValue =>
      if isValue = true then value >>= rest else add .empty >>= rest) :=
  (unexpected_passIf _).bind fun _ => ite (hvalue.bind hrest) ((unexpected_add _).bind hrest)

/-- Entries of a block, each with a key or a question mark in front. -/
theorem unexpected_succ_blockEntries (h : UnexpectedReads fuel) :
    UnexpectedSteps (blockEntries (fuel + 1)) := by
  rw [blockEntries]
  have of_key (key : Nat) := unexpected_withValue (h.nodeUnless true true [.key, .value, .blockEnd])
    fun value => h.blockEntries.bind fun entries => pure ((key, value) :: entries)
  refine (unexpected_passIf _).bind fun isEnd => ite (pure _) (unexpected_peek.bind fun t => ?_)
  dsimp only
  split
  · exact unexpected_pass.bind fun _ => (h.nodeUnless _ _ _).bind of_key
  · exact UnexpectedSteps.malformed.bind of_key

/-- The key of a single entry may be missing as well. -/
theorem unexpected_succ_flowPair (h : UnexpectedReads fuel) : UnexpectedSteps (flowPair (fuel + 1)) := by
  rw [flowPair]
  have of_key (key : Nat) := unexpected_withValue (h.nodeUnless false false [.flowEntry, .flowSequenceEnd])
    fun value => pure (key, value)
  exact unexpected_peek.bind fun t =>
    ite (unexpected_pass.bind fun _ => (unexpected_add _).bind of_key) ((h.nodeUnless _ _ _).bind of_key)

/-- Before each item of a collection in brackets but the first one there is a comma, which the end may follow. -/
theorem unexpected_afterComma {α : Type} {first : Bool} {stop : Token} {rest : Builder (List α)}
    (hrest : UnexpectedSteps rest) : UnexpectedSteps (
      if (!first) = true then do
        if !(← passIf .flowEntry) then malformed
        if ← passIf stop then return []
        rest
      else rest) := by
  have hstop := (unexpected_passIf stop).bind fun isEnd => ite (p := isEnd = true) (pure []) hrest
  exact ite ((unexpected_passIf _).bind fun _ =>
    ite (UnexpectedSteps.malformed.bind fun _ => hstop) hstop) hrest

/-- Items in brackets, some of which are single entries. -/
theorem unexpected_succ_flowItems (h : UnexpectedReads fuel) (first : Bool) :
    UnexpectedSteps (flowItems (fuel + 1) first) := by
  rw [flowItems]
  refine (unexpected_passIf _).bind fun isEnd => ite (pure _) ?_
  refine unexpected_afterComma ((unexpected_passIf _).bind fun isKey => ite ?_ ?_)
  · exact h.pair.bind fun _ => (unexpected_add _).bind fun _ => (h.flowItems false).bind fun _ => pure _
  · exact (h.node _ _).bind fun _ => (h.flowItems false).bind fun _ => pure _

/-- Entries in braces, in which a key may stand alone. -/
theorem unexpected_succ_flowEntries (h : UnexpectedReads fuel) (first : Bool) :
    UnexpectedSteps (flowEntries (fuel + 1) first) := by
  rw [flowEntries]
  have of_pair (entry : Nat × Nat) :
      UnexpectedSteps (do return entry :: (← flowEntries fuel false)) :=
    (h.flowEntries false).bind fun _ => pure _
  refine (unexpected_passIf _).bind fun isEnd => ite (pure _) ?_
  refine unexpected_afterComma ((unexpected_passIf _).bind fun isKey => ite ?_ ?_)
  · refine (h.nodeUnless _ _ _).bind fun key => ?_
    exact unexpected_withValue (h.nodeUnless _ _ _) fun value => of_pair (key, value)
  · exact (h.node _ _).bind fun key => (unexpected_add _).bind fun value => of_pair (key, value)

/-- The readers of nodes, which call each other, by induction on the fuel. -/
theorem unexpectedReads (fuel : Nat) : UnexpectedReads fuel := by
  have malformed {α : Type} : UnexpectedSteps (malformed : Builder α) := UnexpectedSteps.malformed
  induction fuel with
  | zero =>
    exact {
      node := fun _ _ => by rw [read]; exact malformed
      blockItems := by rw [blockItems]; exact malformed
      sameColumnItems := by rw [sameColumnItems]; exact malformed
      blockEntries := by rw [blockEntries]; exact malformed
      flowItems := fun _ => by rw [flowItems]; exact malformed
      flowEntries := fun _ => by rw [flowEntries]; exact malformed
      pair := by rw [flowPair]; exact malformed
      nodeUnless := fun _ _ _ => by rw [readUnless]; exact malformed }
  | succ fuel ih =>
    exact {
      node := unexpected_succ_node ih
      blockItems := unexpected_succ_blockItems ih
      sameColumnItems := unexpected_succ_sameColumnItems ih
      blockEntries := unexpected_succ_blockEntries ih
      flowItems := unexpected_succ_flowItems ih
      flowEntries := unexpected_succ_flowEntries ih
      pair := unexpected_succ_flowPair ih
      nodeUnless := unexpected_succ_nodeUnless ih }

end

/-- The directives in front of a document give a version once and each handle once. -/
theorem unexpected_readDirectives (fuel : Nat) (version : Bool) :
    UnexpectedSteps (readDirectives fuel version) := by
  induction fuel generalizing version with
  | zero => exact UnexpectedSteps.malformed
  | succ fuel ih =>
    rw [readDirectives]
    refine unexpected_peek.bind fun t => ?_
    split
    · have hrest := unexpected_pass.bind fun _ => ih true
      exact ite (UnexpectedSteps.malformed.bind fun _ => hrest) hrest
    · have hrest (g : Source → Source) := unexpected_pass.bind fun _ => (change g).bind fun _ => ih version
      exact get.bind fun s => ite (UnexpectedSteps.malformed.bind fun _ => hrest _) (hrest _)
    · exact change _

/-- Behind the mark of its start a document may be empty. -/
theorem unexpected_readContent (fuel : Nat) : UnexpectedSteps (readContent fuel) := by
  unfold readContent
  refine unexpected_peek.bind fun t => ?_
  split
  any_goals exact unexpected_add _
  exact (unexpectedReads fuel).node _ _

/-- Marks of the end are passed over. -/
theorem unexpected_passEnds (fuel : Nat) : UnexpectedSteps (passEnds fuel) := by
  induction fuel with
  | zero => exact UnexpectedSteps.malformed
  | succ fuel ih =>
    rw [passEnds]
    exact (unexpected_passIf _).bind fun _ => ite ih (pure _)

/-- Behind the end of the document no other one may begin. -/
theorem unexpected_passEnd (fuel : Nat) : UnexpectedSteps (passEnd fuel) := by
  have of_next : UnexpectedSteps (do
      if (← peek) != .streamEnd then
        modify fun s => { s with handles := [] }
        readDirectives fuel false
        malformed : Builder Unit) :=
    unexpected_peek.bind fun t => ite
      ((change _).bind fun _ => (unexpected_readDirectives _ _).bind fun _ => UnexpectedSteps.malformed) (pure _)
  exact (unexpected_passIf _).bind fun _ => ite ((unexpected_passEnds _).bind fun _ => of_next) of_next

/-- The one document of a stream, if there is one. -/
theorem unexpected_readDocument (fuel : Nat) : UnexpectedSteps (readDocument fuel) := by
  unfold readDocument
  refine unexpected_peek.bind fun t => ?_
  split
  · exact pure _
  refine unexpected_peek.bind fun t => (unexpected_readDirectives _ _).bind fun _ => ?_
  have of_node (n : Nat) : UnexpectedSteps (do passEnd fuel; return some n) :=
    (unexpected_passEnd _).bind fun _ => pure _
  refine ite ((unexpected_passIf _).bind fun isStart => ?_) (((unexpectedReads fuel).node _ _).bind of_node)
  have of_content := (unexpected_readContent fuel).bind of_node
  exact ite (UnexpectedSteps.malformed.bind fun _ => of_content) of_content

/-- The nodes of the tokens of a document. -/
theorem unexpected_ofTokens (tokens : List Token) (halt : Option Halt) : Unexpected (ofTokens tokens halt) :=
  (unexpected_readDocument _ _).bind fun _ _ => trivial

end Graph

/-! ## Checking -/

namespace Check

open UnexpectedSteps

/-- The value of a node whose tag is that of a scalar, which the node may not be. -/
theorem reads_scalarValue (nodes : Array Node) (number : Nat) :
    Reads Value.Documented (scalarValue nodes number) := by
  unfold scalarValue
  split
  · exact Scalar.reads_value _ _
  · exact .malformed

/-- The scalars that are met are read, which may fail. -/
theorem unexpected_meet (number : Nat) : UnexpectedSteps (meet number) :=
  get.bind fun _ => ite (ite (pure _) (set _))
    (discard (lift ((reads_scalarValue _ _).weaken fun _ _ => trivial)))

/-- A collection cannot be a key. -/
theorem unexpected_meetEntry (entry : Nat × Nat) : UnexpectedSteps (meetEntry entry) :=
  (unexpected_meet _).bind fun _ => get.bind fun _ =>
    ite (UnexpectedSteps.malformed.bind fun _ => unexpected_meet _) (unexpected_meet _)

/-- The merge keys of a mapping have to lead to mappings. -/
theorem unexpected_checkMapping (number : Nat) : UnexpectedSteps (checkMapping number) := by
  unfold checkMapping
  refine get.bind fun s => ?_
  split
  · split
    · exact UnexpectedSteps.malformed
    · exact (set _).bind fun _ => forM unexpected_meetEntry
  · exact UnexpectedSteps.malformed

/-- A pair is a mapping with one entry. -/
theorem unexpected_checkPair (number : Nat) : UnexpectedSteps (checkPair number) := by
  unfold checkPair
  refine get.bind fun s => ?_
  split
  · exact (unexpected_meet _).bind fun _ => unexpected_meet _
  · exact UnexpectedSteps.malformed

/-- What is inside a collection has to fit its tag. -/
theorem unexpected_look (number : Nat) : UnexpectedSteps (look number) := by
  unfold look
  refine get.bind fun s => ?_
  dsimp only
  split
  · exact unexpected_checkMapping _
  · exact unexpected_checkMapping _
  · exact forM unexpected_meet
  · exact forM unexpected_checkPair
  · exact forM unexpected_checkPair
  · exact UnexpectedSteps.malformed

/-- Every collection that is met is looked into, by induction on the depth. -/
theorem unexpected_lookInside (fuel : Nat) : UnexpectedSteps (lookInside fuel) := by
  induction fuel with
  | zero => exact pure _
  | succ fuel ih =>
    rw [lookInside]
    exact get.bind fun s => ite (pure _)
      ((change _).bind fun _ => (forM unexpected_look).bind fun _ => ih)

end Check

/-- A document is checked from its root. -/
theorem unexpected_checked (g : Graph) : Unexpected g.checked :=
  Reads.bind (((Check.unexpected_meet _).bind fun _ => Check.unexpected_lookInside _) _) fun _ _ => trivial

/-! ## Values of nodes -/

namespace Graph

variable (g : Graph)

/-- The value of a scalar was read, or it is missing. -/
theorem documented_scalar (number : Nat) : (g.scalar number).Documented := by
  unfold scalar
  split
  · next v hv => exact (Check.reads_scalarValue _ _).value hv
  · exact .null

/-- What is inside a node that is no collection is the value of a scalar. -/
theorem documented_of_shape {number : Nat} {v : Value} (h : g.shape number = .scalar v) : v.Documented := by
  unfold shape at h
  dsimp only at h
  split at h
  any_goals cases h
  exact g.documented_scalar number

/-- The text of a node is missing only for a number that is too long. -/
theorem eq_numberTooLong_of_quoted {fuel number : Nat} {around : List Nat} {f : Failure}
    (h : g.quoted fuel around number = .error f) : f = .numberTooLong := by
  induction fuel generalizing around number with
  | zero => cases h
  | succ fuel ih =>
    have of_pair {k v : Nat} {around : List Nat} {between : String}
        (h : (do return (← g.quoted fuel around k) ++ between ++ (← g.quoted fuel around v)) = .error f) :
        f = .numberTooLong := by
      rcases bind_eq_error.1 h with h | ⟨_, -, h⟩
      · exact ih h
      · rcases bind_eq_error.1 h with h | ⟨_, -, h⟩
        · exact ih h
        · cases h
    have of_mapM {α : Type} {items : List α} {inner : α → Except Failure String}
        {join : List String → String} (hinner : ∀ a, inner a = .error f → f = .numberTooLong)
        (h : (do return join (← items.mapM inner)) = .error f) : f = .numberTooLong := by
      rcases bind_eq_error.1 h with h | ⟨_, -, h⟩
      · obtain ⟨_, a, _, -, -, ha⟩ := mapM_eq_error_iff.1 h
        exact hinner a ha
      · cases h
    have of_map {x : Except Failure String} {shown : String → String} (h : shown <$> x = .error f) :
        x = .error f := by
      cases x with
      | error _ => exact h
      | ok _ => cases h
    rw [quoted] at h
    dsimp only at h
    split at h
    · next hshape => exact (g.documented_of_shape hshape).quoted_eq_error h
    · split at h
      · cases h
      · exact of_mapM (fun _ => ih) h
    · split at h
      · cases h
      · exact of_mapM (fun _ hpair => of_pair (of_map hpair)) h
    · split at h
      · cases h
      · exact of_mapM (fun _ => ih) h
    · split at h
      · cases h
      · exact of_mapM (fun _ => of_pair) h

/-- A pair of values of a document. -/
theorem documented_pair {inner : Nat → Value} (hinner : ∀ n, (inner n).Documented) (entry : Nat × Nat) :
    (Value.tuple [inner entry.1, inner entry.2]).Documented := by
  refine .tuple ?_
  rw [List.forall_mem_cons, List.forall_mem_singleton]
  exact ⟨hinner entry.1, hinner entry.2⟩

/-- A value that is known by its text. -/
theorem documented_opaqueValue (number : Nat) : (g.opaqueValue number).Documented := by
  unfold opaqueValue
  split
  · next hshape => exact g.documented_of_shape hshape
  · exact .knot (fun _ => g.eq_numberTooLong_of_quoted) nofun

/-- The items of a list that contains itself are known by their texts or by their values. -/
theorem documented_knot {inner : Nat → Value} (hinner : ∀ n, (inner n).Documented) (number : Nat) :
    (g.knot inner number).Documented := by
  unfold knot
  split
  · refine .knot (fun _ => g.eq_numberTooLong_of_quoted) ?_
    rw [List.forall_mem_map]
    intro item _
    split
    · exact g.documented_opaqueValue item
    · exact hinner item
  · refine .knot (fun _ => g.eq_numberTooLong_of_quoted) ?_
    rw [List.forall_mem_map]
    intro entry _
    dsimp only
    split
    · refine .knot (fun f h => ?_) nofun
      rcases bind_eq_error.1 h with h | ⟨_, -, h⟩
      · exact g.eq_numberTooLong_of_quoted h
      · rcases bind_eq_error.1 h with h | ⟨_, -, h⟩
        · exact g.eq_numberTooLong_of_quoted h
        · cases h
    · exact documented_pair hinner entry
  · exact g.documented_opaqueValue number

/-- The value of a node, by induction on the depth of what is inside. -/
theorem documented_value (fuel number : Nat) : (g.value fuel number).Documented := by
  induction fuel generalizing number with
  | zero => exact .null
  | succ fuel ih =>
    rw [value]
    dsimp only
    split
    · next hshape => exact g.documented_of_shape hshape
    split
    · exact g.documented_knot ih number
    split
    · next hshape => exact g.documented_of_shape hshape
    · refine .list ?_
      rw [List.forall_mem_map]
      exact fun item _ => ih item
    · refine .list ?_
      rw [List.forall_mem_map]
      exact fun entry _ => documented_pair ih entry
    · refine .set ?_
      rw [List.forall_mem_map]
      exact fun item _ => ih item
    · refine .mapping ?_ ?_ <;> rw [List.forall_mem_map] <;> exact fun entry _ => ih _

/-- The value of a node that is read entry by entry, likewise. -/
theorem documented_openValue (fuel : Nat) (around : List Nat) (number : Nat) :
    (g.openValue fuel around number).Documented := by
  induction fuel generalizing around number with
  | zero => exact .null
  | succ fuel ih =>
    rw [openValue]
    split
    · split
      · exact g.documented_opaqueValue number
      · refine .mapping ?_ ?_ <;> rw [List.forall_mem_map]
        · exact fun entry _ => g.documented_scalar entry.1
        · exact fun entry _ => ih _ entry.2
    · exact g.documented_value _ number

end Graph

/-- **What becomes of a document**: a value that a document can hold, or a failure, which is not reported as
the user's if it is not due to the form of the document. -/
theorem reads_read (s : Stream) : Reads Value.Documented (read s) := by
  unfold read
  refine (Graph.unexpected_ofTokens _ _).bind fun g _ => ?_
  split
  · exact .ok .null
  · exact (unexpected_checked _).bind fun g _ => .ok (g.documented_openValue _ _ _)

end Yaml

end ClusterPlan
