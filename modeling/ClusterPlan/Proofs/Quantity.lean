import ClusterPlan.Text.Numeral
import ClusterPlan.Proofs.Trim

/-!
# The grammar of quantities

A text spells a quantity when it is a run of digits and a run of letters, with blanks before, between and
behind them (`Quantity.Spells`). No character is in two of these classes, so there is one way to take such a
text apart, and reading finds it: a quantity is read exactly if the text spells it
(`Quantity.read?_eq_some_iff`). A text measures a run of digits in a unit when its letters are one of the names
of the unit, large or small (`Measures`).
-/

namespace ClusterPlan.Text

/-! ## Classes of characters -/

/-- Digits of other scripts than the first lie far behind the letters. -/
theorem isDigit_eq_false {c : Char} (h : c.toNat < 48 ∨ 58 ≤ c.toNat ∧ c.toNat < 1632) :
    isDigit c = false := by
  have hz : ∀ z ∈ zeros, z = 48 ∨ 1632 ≤ z := by decide
  have hnone : zeros.find? (fun z => z ≤ c.toNat && c.toNat < z + 10) = none := by
    refine List.find?_eq_none.2 fun z hm => ?_
    have := hz z hm
    simp only [Bool.and_eq_true, decide_eq_true_eq]
    omega
  rw [isDigit, digit?, hnone]
  rfl

theorem toNat_of_isLetter {c : Char} (h : isLetter c = true) :
    97 ≤ c.toNat ∧ c.toNat ≤ 122 ∨ 65 ≤ c.toNat ∧ c.toNat ≤ 90 := by
  simp only [isLetter, Bool.or_eq_true, Bool.and_eq_true, decide_eq_true_eq, Char.le_def,
    UInt32.le_iff_toNat_le] at h
  exact h

/-- A letter is no digit. -/
theorem isDigit_of_isLetter {c : Char} (h : isLetter c = true) : isDigit c = false := by
  have := toNat_of_isLetter h
  exact isDigit_eq_false (by omega)

/-- A letter is no blank. -/
theorem isBlank_of_isLetter {c : Char} (h : isLetter c = true) : isBlank c = false := by
  have := toNat_of_isLetter h
  simp only [isBlank, blankRanges, List.any_cons, List.any_nil, Bool.or_false, Bool.or_eq_false_iff,
    Bool.and_eq_false_iff, decide_eq_false_iff_not]
  omega

/-- A blank is no digit of any script: no range of blanks meets the ten digits of one. -/
theorem isDigit_of_isBlank {c : Char} (h : isBlank c = true) : isDigit c = false := by
  have hapart : ∀ r ∈ blankRanges, ∀ z ∈ zeros, r.2 < z ∨ z + 10 ≤ r.1 := by decide
  obtain ⟨r, hr, hc⟩ := List.any_eq_true.1 h
  simp only [Bool.and_eq_true, decide_eq_true_eq] at hc
  have hnone : zeros.find? (fun z => z ≤ c.toNat && c.toNat < z + 10) = none := by
    refine List.find?_eq_none.2 fun z hz => ?_
    have := hapart r hr z hz
    simp only [Bool.and_eq_true, decide_eq_true_eq]
    omega
  rw [isDigit, digit?, hnone]
  rfl

theorem isBlank_of_digit {c : Char} (h : isDigit c = true) : isBlank c = false := by
  by_contra hblank
  rw [isDigit_of_isBlank (Bool.of_not_eq_false hblank)] at h
  cases h

/-! ## Quantities -/

/-- The text is the digits and the unit of the quantity with blanks before, between and behind them. The
digits have to be there, the unit need not. -/
def Quantity.Spells (q : Quantity) (cs : List Char) : Prop :=
  ∃ front gap back, Blank front ∧ Blank gap ∧ Blank back ∧ q.digits ≠ [] ∧
    (∀ c ∈ q.digits, isDigit c = true) ∧ (∀ c ∈ q.unit, isLetter c = true) ∧
    cs = front ++ (q.digits ++ (gap ++ (q.unit ++ back)))

/-- Letters behind blanks are found up to the blanks behind them. -/
theorem letters_between {gap unit back : List Char} (hgap : Blank gap) (hback : Blank back)
    (hunit : ∀ c ∈ unit, isLetter c = true) :
    (trimStart (gap ++ (unit ++ back))).takeWhile isLetter = unit ∧
      trimStart ((trimStart (gap ++ (unit ++ back))).dropWhile isLetter) = [] := by
  have hnone : trimStart back = [] := List.dropWhile_eq_nil_iff.2 hback
  cases unit with
  | nil =>
    have hall : trimStart (gap ++ ([] ++ back)) = [] := List.dropWhile_eq_nil_iff.2 (hgap.append hback)
    rw [hall]
    exact ⟨rfl, rfl⟩
  | cons c unit =>
    have hstart : trimStart (gap ++ (c :: unit ++ back)) = c :: unit ++ back := by
      refine dropWhile_run hgap fun d hd => ?_
      obtain rfl := Option.some.inj hd
      exact isBlank_of_isLetter (hunit _ List.mem_cons_self)
    have hletter (d : Char) (hd : back.head? = some d) : isLetter d = false := by
      by_contra hl
      have := isBlank_of_isLetter (Bool.of_not_eq_false hl)
      rw [hback d (List.mem_of_head? hd)] at this
      cases this
    rw [hstart, takeWhile_run hunit hletter, dropWhile_run hunit hletter]
    exact ⟨rfl, hnone⟩

/-- What a text spells is read. -/
theorem Quantity.read?_of_spells {cs : List Char} {q : Quantity} (h : q.Spells cs) : read? cs = some q := by
  obtain ⟨ds, unit⟩ := q
  obtain ⟨front, gap, back, hfront, hgap, hback, hne, hdigits, hunit, rfl⟩ := h
  have hnumber : trimStart (front ++ (ds ++ (gap ++ (unit ++ back)))) = ds ++ (gap ++ (unit ++ back)) := by
    refine dropWhile_run hfront fun c hc => ?_
    rw [List.head?_append, List.head?_eq_some_head hne] at hc
    obtain rfl := Option.some.inj hc
    exact isBlank_of_digit (hdigits _ (List.head_mem hne))
  have hrest (c : Char) (hc : (gap ++ (unit ++ back)).head? = some c) : isDigit c = false := by
    rcases List.mem_append.1 (List.mem_of_head? hc) with hc | hc
    · exact isDigit_of_isBlank (hgap c hc)
    · rcases List.mem_append.1 hc with hc | hc
      · exact isDigit_of_isLetter (hunit c hc)
      · exact isDigit_of_isBlank (hback c hc)
  have ⟨hletters, hend⟩ := letters_between hgap hback hunit
  simp only [read?, hnumber, takeWhile_run hdigits hrest, dropWhile_run hdigits hrest, hletters, hend]
  simp [hne]

/-- What is read is spelled by the text. -/
theorem Quantity.spells_of_read? {cs : List Char} {q : Quantity} (h : read? cs = some q) : q.Spells cs := by
  simp only [read?] at h
  split at h
  · cases h
  · next hcond =>
    cases h
    simp only [Bool.or_eq_true, not_or, Bool.not_eq_true', Bool.not_eq_false, List.isEmpty_iff] at hcond
    obtain ⟨hne, hend⟩ := hcond
    have hrun {p : Char → Bool} {run : List Char} : ∀ c ∈ run.takeWhile p, p c = true :=
      fun c hc => List.mem_takeWhile_imp hc
    refine ⟨cs.takeWhile isBlank, ((trimStart cs).dropWhile isDigit).takeWhile isBlank, _, hrun, hrun,
      List.dropWhile_eq_nil_iff.1 hend, hne, hrun, hrun, ?_⟩
    -- each run and what is left behind it make up what was left in front of it
    rw [List.takeWhile_append_dropWhile, takeWhile_append_trimStart, List.takeWhile_append_dropWhile,
      takeWhile_append_trimStart]

/-- **Quantities.** A quantity is read exactly if the text spells it. -/
theorem Quantity.read?_eq_some_iff {cs : List Char} {q : Quantity} : read? cs = some q ↔ q.Spells cs :=
  ⟨spells_of_read?, read?_of_spells⟩

/-- A text spells one quantity at most. -/
theorem Quantity.Spells.unique {cs : List Char} {q q' : Quantity} (h : q.Spells cs) (h' : q'.Spells cs) :
    q = q' :=
  Option.some.inj ((read?_of_spells h).symm.trans (read?_of_spells h'))

/-- The digits of a quantity are a part of the text. -/
theorem Quantity.Spells.infix {cs : List Char} {q : Quantity} (h : q.Spells cs) : q.digits <:+: cs := by
  obtain ⟨front, gap, back, -, -, -, -, -, -, rfl⟩ := h
  exact List.infix_append' ..

theorem Quantity.Spells.isDigit {cs : List Char} {q : Quantity} (h : q.Spells cs) :
    ∀ c ∈ q.digits, Text.isDigit c = true := by
  obtain ⟨-, -, -, -, -, -, -, hdigits, -⟩ := h
  exact hdigits

/-! ## Units -/

/-- The text is the digits and a unit of one of the names, in letters of either case. -/
def Measures (names : List String) (ds : List Char) (s : String) : Prop :=
  ∃ letters, Quantity.Spells ⟨ds, letters⟩ s.toList ∧ String.ofList (letters.map Char.toLower) ∈ names

/-- A number and letters, with or without a space between them, measure the number. -/
theorem measures_written {names : List String} {gap letters : List Char} (n : Nat)
    (hgap : gap = [] ∨ gap = [' ']) (hletters : ∀ c ∈ letters, isLetter c = true)
    (hname : String.ofList (letters.map Char.toLower) ∈ names) :
    Measures names (Nat.toDigits 10 n) (toString n ++ String.ofList (gap ++ letters)) := by
  have hblank : Blank gap := by
    rcases hgap with rfl | rfl
    · exact .nil
    · intro c hc
      rw [List.mem_singleton.1 hc]
      rfl
  refine ⟨letters, ⟨[], gap, [], .nil, hblank, .nil, Nat.toDigits_ne_nil,
    fun c hc => isDigit_of_isDigit (isDigit_toDigits n c hc), hletters, ?_⟩, hname⟩
  rw [String.toList_append, String.toList_ofList, List.append_nil, Nat.toString_eq_repr]
  simp

/-- Of units that are tried from the largest to the smallest, the first one that fits is the largest that does. -/
theorem le_of_find? {α : Type} {size : α → Nat} {fits : α → Bool} {units : List α} {u v : α}
    (hsorted : units.Pairwise fun u v => size v < size u) (h : units.find? fits = some u) (hv : v ∈ units)
    (hfits : fits v = true) : size v ≤ size u := by
  -- the units in front of the one that is found do not fit, those behind it are smaller
  obtain ⟨-, front, back, rfl, hfront⟩ := List.find?_eq_some_iff_append.1 h
  rcases List.mem_append.1 hv with hv | hv
  · have := hfront v hv
    rw [hfits] at this
    cases this
  · rcases List.mem_cons.1 hv with rfl | hv
    · exact Nat.le_refl _
    · exact Nat.le_of_lt ((List.pairwise_cons.1 (List.pairwise_append.1 hsorted).2.1).1 v hv)

end ClusterPlan.Text
