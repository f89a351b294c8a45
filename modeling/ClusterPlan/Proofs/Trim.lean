import Mathlib.Data.List.Basic
import Mathlib.Data.List.TakeWhile
import ClusterPlan.Text.Pieces
import ClusterPlan.Proofs.Digits

/-!
# Texts without blanks at their ends

A text is trimmed when it neither starts nor ends with a blank (`Trimmed`). That is what `trim` gives
(`trimmed_trim`), and such a text is left as it is (`Trimmed.trim_eq`). What `trim` takes off is blank
throughout (`exists_trim`), and there is one way to do so (`trim_between`).
-/

namespace ClusterPlan.Text

/-! ## Runs at the start of a text -/

section
variable {p : Char → Bool} {run rest : List Char}

/-- A run of characters of a class is taken up to the first character of another class. -/
theorem takeWhile_run (hrun : ∀ c ∈ run, p c = true) (hrest : ∀ c, rest.head? = some c → p c = false) :
    (run ++ rest).takeWhile p = run := by
  rw [List.takeWhile_append_of_pos hrun]
  cases rest with
  | nil => rw [List.takeWhile_nil, List.append_nil]
  | cons c rest => rw [List.takeWhile_cons_of_neg (by simp [hrest c rfl]), List.append_nil]

/-- What is left behind the run starts with that character. -/
theorem dropWhile_run (hrun : ∀ c ∈ run, p c = true) (hrest : ∀ c, rest.head? = some c → p c = false) :
    (run ++ rest).dropWhile p = rest := by
  rw [List.dropWhile_append_of_pos hrun]
  cases rest with
  | nil => rfl
  | cons c rest => rw [List.dropWhile_cons_of_neg (by simp [hrest c rfl])]

end

/-! ## Blanks at the ends of a text -/

/-- The text neither starts nor ends with a blank. -/
structure Trimmed (cs : List Char) : Prop where
  head : ∀ c, cs.head? = some c → isBlank c = false
  last : ∀ c, cs.getLast? = some c → isBlank c = false

theorem trimStart_eq_self {cs : List Char} (h : ∀ c, cs.head? = some c → isBlank c = false) :
    trimStart cs = cs :=
  @dropWhile_run isBlank [] cs nofun h

/-- What is left at the start of a text is no blank. -/
theorem isBlank_head?_trimStart {cs : List Char} {c : Char} (h : (trimStart cs).head? = some c) :
    isBlank c = false := by
  have := List.head?_dropWhile_not isBlank cs
  rw [← trimStart, h] at this
  simpa using this

/-- Blanks are taken off the end as they are taken off the start, in the other direction. -/
theorem trimEnd_eq (cs : List Char) : trimEnd cs = (trimStart cs.reverse).reverse := rfl

/-- A text without a blank at its end is left as it is. -/
theorem trimEnd_eq_self {cs : List Char} (h : ∀ c, cs.getLast? = some c → isBlank c = false) :
    trimEnd cs = cs := by
  rw [trimEnd_eq, trimStart_eq_self fun c hc => h c (List.head?_reverse ▸ hc), List.reverse_reverse]

theorem Trimmed.trim_eq {cs : List Char} (h : Trimmed cs) : trim cs = cs := by
  rw [trim, trimStart_eq_self h.head, trimEnd_eq_self h.last]

/-- Taking blanks off the end of a text that starts with no blank leaves its start. -/
theorem head?_trimEnd {cs : List Char} (h : ∀ c, cs.head? = some c → isBlank c = false) (c : Char)
    (hc : (trimEnd cs).head? = some c) : isBlank c = false := by
  -- what is left is a start of the text
  obtain ⟨rest, hrest⟩ : ∃ rest, cs = trimEnd cs ++ rest := by
    refine ⟨(cs.reverse.takeWhile isBlank).reverse, ?_⟩
    rw [trimEnd, ← List.reverse_append, List.takeWhile_append_dropWhile, List.reverse_reverse]
  refine h c ?_
  rw [hrest, List.head?_append, hc, Option.some_or]

theorem trimmed_trim (cs : List Char) : Trimmed (trim cs) where
  head c hc := head?_trimEnd (fun _ => isBlank_head?_trimStart) c hc
  last c hc := by
    rw [trim, trimEnd_eq, List.getLast?_reverse] at hc
    exact isBlank_head?_trimStart hc

/-- A text that is left as it is is trimmed. -/
theorem Trimmed.of_trim_eq {cs : List Char} (h : trim cs = cs) : Trimmed cs :=
  h ▸ trimmed_trim cs

/-- A text without blanks is trimmed. -/
theorem Trimmed.of_forall {cs : List Char} (h : ∀ c ∈ cs, isBlank c = false) : Trimmed cs where
  head c hc := h c (List.mem_of_head? hc)
  last c hc := h c (List.mem_of_getLast? hc)

theorem mem_of_mem_trim {cs : List Char} {c : Char} (h : c ∈ trim cs) : c ∈ cs := by
  rw [trim, trimEnd_eq, List.mem_reverse] at h
  have h := List.mem_reverse.1 ((List.dropWhile_suffix isBlank).subset h)
  exact (List.dropWhile_suffix isBlank).subset h

/-- An ASCII digit is no blank. -/
theorem isBlank_of_isDigit {c : Char} (h : c.isDigit = true) : isBlank c = false := by
  have hc : 48 ≤ c.toNat ∧ c.toNat ≤ 57 := by
    simp only [Char.isDigit, Bool.and_eq_true, decide_eq_true_eq, UInt32.le_iff_toNat_le] at h
    exact h
  simp only [isBlank, blankRanges, List.any_cons, List.any_nil, Bool.or_false, Bool.or_eq_false_iff,
    Bool.and_eq_false_iff, decide_eq_false_iff_not]
  omega

/-- The last digit of a number is no blank. -/
theorem isBlank_getLast?_toDigits {n : Nat} {c : Char}
    (h : (Nat.toDigits 10 n).getLast? = some c) : isBlank c = false :=
  isBlank_of_isDigit (isDigit_toDigits n c (List.mem_of_getLast? h))

/-! ## What is taken off -/

/-- Every character of the text is blank. -/
def Blank (cs : List Char) : Prop :=
  ∀ c ∈ cs, isBlank c = true

theorem Blank.nil : Blank [] := nofun

theorem Blank.append {cs ds : List Char} (hc : Blank cs) (hd : Blank ds) : Blank (cs ++ ds) :=
  List.forall_mem_append.2 ⟨hc, hd⟩

/-- What is left in front and the trailing blanks make up the text. -/
theorem trimEnd_append_takeWhile (cs : List Char) :
    trimEnd cs ++ (cs.reverse.takeWhile isBlank).reverse = cs := by
  rw [trimEnd, ← List.reverse_append, List.takeWhile_append_dropWhile, List.reverse_reverse]

/-- A text is what is left of it between blanks. -/
theorem exists_trim (cs : List Char) : ∃ front back, Blank front ∧ Blank back ∧
    cs = front ++ (trim cs ++ back) := by
  refine ⟨cs.takeWhile isBlank, ((trimStart cs).reverse.takeWhile isBlank).reverse,
    fun c hc => List.mem_takeWhile_imp hc, fun c hc => List.mem_takeWhile_imp (List.mem_reverse.1 hc), ?_⟩
  rw [trim, trimEnd_append_takeWhile, takeWhile_append_trimStart]

/-- Blanks around a trimmed text are taken off. -/
theorem trim_between {front cs back : List Char} (hf : Blank front) (hb : Blank back) (h : Trimmed cs) :
    trim (front ++ (cs ++ back)) = cs := by
  rw [trim, trimStart]
  cases cs with
  | nil =>
    rw [List.nil_append, List.dropWhile_eq_nil_iff.2 fun c hc => (List.mem_append.1 hc).elim (hf c) (hb c)]
    rfl
  | cons c cs =>
    have hlast (d : Char) (hd : (c :: cs).reverse.head? = some d) : isBlank d = false :=
      h.last d (by rwa [List.head?_reverse] at hd)
    have hhead (d : Char) (hd : (c :: cs ++ back).head? = some d) : isBlank d = false := h.head d hd
    rw [dropWhile_run hf hhead, trimEnd, List.reverse_append,
      dropWhile_run (fun d hd => hb d (List.mem_reverse.1 hd)) hlast, List.reverse_reverse]

/-- Blanks around a text do not matter. -/
theorem trim_blank_append {front back : List Char} (hf : Blank front) (cs : List Char)
    (hb : Blank back) : trim (front ++ (cs ++ back)) = trim cs := by
  obtain ⟨front', back', hf', hb', hcs⟩ := exists_trim cs
  have h : front ++ (cs ++ back) = (front ++ front') ++ (trim cs ++ (back' ++ back)) := by
    conv_lhs => rw [hcs]
    simp only [List.append_assoc]
  rw [h]
  exact trim_between (hf.append hf') (hb'.append hb)
    (trimmed_trim cs)

theorem trim_eq_nil_iff {cs : List Char} : trim cs = [] ↔ Blank cs := by
  constructor
  · intro h
    obtain ⟨front, back, hf, hb, hcs⟩ := exists_trim cs
    rw [h, List.nil_append] at hcs
    exact hcs ▸ hf.append hb
  · intro h
    simpa using trim_blank_append h [] .nil

/-- The first character that is not blank stays in front. -/
theorem head?_trim {c : Char} {cs : List Char} (hc : isBlank c = false) :
    (trim (c :: cs)).head? = some c := by
  obtain ⟨front, back, hf, hb, hcs⟩ := exists_trim (c :: cs)
  have hfront : front = [] := by
    cases front with
    | nil => rfl
    | cons d front =>
      obtain rfl := (List.cons.inj hcs).1
      rw [hf c List.mem_cons_self] at hc
      cases hc
  subst hfront
  cases ht : trim (c :: cs) with
  | nil =>
    rw [trim_eq_nil_iff.1 ht c List.mem_cons_self] at hc
    cases hc
  | cons d ds =>
    rw [ht] at hcs
    rw [(List.cons.inj hcs).1]
    rfl

/-! ## Joined texts -/

/-- Trimmed texts that are not empty make a trimmed text when they are joined. -/
theorem trimmed_intercalate {separator : List Char} : ∀ {items : List (List Char)}, items ≠ [] →
    (∀ item ∈ items, item ≠ [] ∧ Trimmed item) →
    separator.intercalate items ≠ [] ∧ Trimmed (separator.intercalate items)
  | [item], _, h => by rw [List.intercalate_singleton]; exact h item List.mem_cons_self
  | item :: next :: items, _, h => by
    have ⟨hne, hitem⟩ := h item List.mem_cons_self
    have ⟨hne', hrest⟩ := @trimmed_intercalate separator (next :: items) nofun
      fun i hi => h i (List.mem_cons_of_mem _ hi)
    rw [List.intercalate_cons_cons, List.append_assoc]
    refine ⟨by simp [hne], fun c hc => ?_, fun c hc => ?_⟩
    · rw [List.head?_append_of_ne_nil _ hne] at hc
      exact hitem.head c hc
    · rw [← List.append_assoc, List.getLast?_append_of_ne_nil _ hne'] at hc
      exact hrest.last c hc

end ClusterPlan.Text
