import ClusterPlan.Text.Pieces
import ClusterPlan.Proofs.Trim

/-!
# Texts of assignments

A text is cut at its first equals sign, and the blanks around the two parts do not count (`splitAtEquals`).
If the part in front is not blank, then the text is an assignment (`IsAssignment`), and it is read as the key
and the value that the cut gives (`assignment?_of_isAssignment`); else it is not read at all.
-/

namespace ClusterPlan.Text

/-! ## The first equals sign -/

/-- What is in front of the first equals sign of a text and what is behind it, both without the blanks around
them. Without an equals sign all is in front of it. -/
def splitAtEquals (cs : List Char) : String × String :=
  (.ofList (trim (cs.takeWhile (· != '='))), .ofList (trim ((cs.dropWhile (· != '=')).drop 1)))

/-- A text without an equals sign is all in front of it. -/
theorem span_of_not_mem {cs : List Char} (h : '=' ∉ cs) :
    cs.takeWhile (· != '=') = cs ∧ cs.dropWhile (· != '=') = [] := by
  have hall : ∀ c ∈ cs, (c != '=') = true := fun c hc => bne_iff_ne.2 fun e => h (e ▸ hc)
  exact ⟨List.takeWhile_eq_self_iff.2 hall, List.dropWhile_eq_nil_iff.2 hall⟩

/-- A text is cut in front of its first equals sign. -/
theorem span_append {key value : List Char} (h : '=' ∉ key) :
    (key ++ '=' :: value).takeWhile (· != '=') = key ∧
      (key ++ '=' :: value).dropWhile (· != '=') = '=' :: value := by
  have hkey : ∀ c ∈ key, (c != '=') = true := fun c hc => bne_iff_ne.2 fun e => h (e ▸ hc)
  have hvalue (c : Char) (hc : ('=' :: value).head? = some c) : (c != '=') = false := by
    obtain rfl := Option.some.inj hc; rfl
  exact ⟨takeWhile_run hkey hvalue, dropWhile_run hkey hvalue⟩

/-- A text has no equals sign, or it has a first one. -/
theorem exists_first_equals (cs : List Char) :
    '=' ∉ cs ∨ ∃ key value, '=' ∉ key ∧ cs = key ++ '=' :: value := by
  by_cases h : '=' ∈ cs
  · obtain ⟨key, value, rfl, hkey⟩ := List.eq_append_cons_of_mem h
    exact .inr ⟨key, value, hkey, rfl⟩
  · exact .inl h

/-- A text without an equals sign is all key. -/
theorem splitAtEquals_of_not_mem {cs : List Char} (h : '=' ∉ cs) :
    splitAtEquals cs = (.ofList (trim cs), "") := by
  rw [splitAtEquals, (span_of_not_mem h).1, (span_of_not_mem h).2]
  rfl

/-- A text is split at its first equals sign. -/
theorem splitAtEquals_append {key value : List Char} (h : '=' ∉ key) :
    splitAtEquals (key ++ '=' :: value) = (.ofList (trim key), .ofList (trim value)) := by
  rw [splitAtEquals, (span_append h).1, (span_append h).2]
  rfl

/-- There is no equals sign among blanks. -/
theorem not_mem_of_blank {cs : List Char} (h : Blank cs) : '=' ∉ cs :=
  fun hm => absurd (h _ hm) (by decide)

/-- Blanks around a text do not matter for its cut. -/
theorem splitAtEquals_trim (cs : List Char) : splitAtEquals (trim cs) = splitAtEquals cs := by
  obtain ⟨front, back, hf, hb, hcs⟩ := exists_trim cs
  rcases exists_first_equals (trim cs) with h | ⟨key, value, hkey, hkv⟩
  · have hnot : '=' ∉ cs := by
      rw [hcs, List.mem_append, List.mem_append]
      exact fun hm => hm.elim (not_mem_of_blank hf) fun hm => hm.elim h (not_mem_of_blank hb)
    rw [splitAtEquals_of_not_mem h, splitAtEquals_of_not_mem hnot, (trimmed_trim cs).trim_eq]
  · have hcut : cs = (front ++ key) ++ '=' :: (value ++ back) := by
      rw [hkv] at hcs
      rw [hcs]
      simp only [List.append_assoc, List.cons_append]
    have hnot : '=' ∉ front ++ key := by
      rw [List.mem_append]
      exact fun hm => hm.elim (not_mem_of_blank hf) hkey
    have hk : trim (front ++ key) = trim key := by
      simpa using trim_blank_append hf key .nil
    have hv : trim (value ++ back) = trim value := trim_blank_append .nil value hb
    rw [hkv, splitAtEquals_append hkey, hcut, splitAtEquals_append hnot, hk, hv]

/-! ## Assignments -/

/-- The text of an assignment: it has an equals sign, and what is in front of the first one is not blank. -/
def IsAssignment (cs : List Char) : Prop :=
  ∃ key value, '=' ∉ key ∧ ¬ Blank key ∧ cs = key ++ '=' :: value

/-- A text is cut at its first equals sign. -/
theorem cutAtEquals_append {key value : List Char} (h : '=' ∉ key) :
    cutAtEquals (key ++ '=' :: value) = some (key, value) := by
  rw [cutAtEquals, (span_append h).1, (span_append h).2]

/-- The text of an assignment is read as the two sides of its first equals sign. -/
theorem assignment?_of_isAssignment {s : String} (h : IsAssignment s.toList) :
    assignment? s = some (splitAtEquals s.toList) := by
  obtain ⟨key, value, hkey, hblank, hs⟩ := h
  have hne : (trim key).isEmpty = false :=
    List.isEmpty_eq_false_iff.2 fun e => hblank (trim_eq_nil_iff.1 e)
  rw [assignment?, hs, cutAtEquals_append hkey, splitAtEquals_append hkey]
  simp only [hne, Bool.false_eq_true, ↓reduceIte]

/-- Other texts are not read as assignments. -/
theorem assignment?_of_not_isAssignment {s : String} (h : ¬ IsAssignment s.toList) :
    assignment? s = none := by
  rcases exists_first_equals s.toList with hnot | ⟨key, value, hkey, hs⟩
  · rw [assignment?, cutAtEquals, (span_of_not_mem hnot).2]
  · have hblank : Blank key := by
      by_contra hblank
      exact h ⟨key, value, hkey, hblank, hs⟩
    rw [assignment?, hs, cutAtEquals_append hkey]
    simp only [trim_eq_nil_iff.2 hblank, List.isEmpty_nil, ↓reduceIte]

end ClusterPlan.Text
