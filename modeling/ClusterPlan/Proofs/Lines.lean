import Mathlib.Data.List.Infix
import ClusterPlan.Text.Pieces

/-!
# Lines of a text

A line holds no line boundary (`BreakFree`) and is a part of its text (`infix_of_mem_lines`). Lines that are
joined by a line end come apart as they were, but for an empty last one (`filter_lines_intercalate`).
-/

namespace ClusterPlan.Text

/-- No character of the text ends a line. -/
def BreakFree (cs : List Char) : Prop :=
  ∀ c ∈ cs, isLineBreak c = false

/-- What ends a line: a boundary, or a carriage return with a line feed after it. -/
inductive IsLineEnd : List Char → Prop
  | crlf : IsLineEnd ['\r', '\n']
  | single {c : Char} : isLineBreak c = true → IsLineEnd [c]

/-- Whether a text holds a line break can be computed. -/
theorem BreakFree.of_any {cs : List Char} (h : cs.any isLineBreak = false) : BreakFree cs :=
  fun c hc => Bool.eq_false_iff.2 fun hbreak => List.any_eq_false.1 h c hc hbreak

/-- What ends a line is blank. -/
theorem isLineBreak_of_not_isBlank {c : Char} (h : isBlank c = false) : isLineBreak c = false := by
  simp only [isBlank, blankRanges, List.any_cons, List.any_nil, Bool.or_false, Bool.or_eq_false_iff,
    Bool.and_eq_false_iff, decide_eq_false_iff_not] at h
  simp only [isLineBreak, Bool.or_eq_false_iff, Bool.and_eq_false_iff, decide_eq_false_iff_not,
    beq_eq_false_iff_ne]
  omega

/-- Two texts without line breaks make one. -/
theorem BreakFree.append {cs ds : List Char} (hc : BreakFree cs) (hd : BreakFree ds) :
    BreakFree (cs ++ ds) :=
  List.forall_mem_append.2 ⟨hc, hd⟩

/-- So do a character and a text. -/
theorem BreakFree.cons {c : Char} {cs : List Char} (hc : isLineBreak c = false) (hcs : BreakFree cs) :
    BreakFree (c :: cs) :=
  List.forall_mem_cons.2 ⟨hc, hcs⟩

/-- Line breaks are blanks. -/
theorem BreakFree.of_not_isBlank {cs : List Char} (h : ∀ c ∈ cs, isBlank c = false) : BreakFree cs :=
  fun c hc => isLineBreak_of_not_isBlank (h c hc)

/-- Texts without line breaks stay so with a separator between them. -/
theorem BreakFree.intercalate {separator : List Char} (hs : BreakFree separator) :
    ∀ {items : List (List Char)}, (∀ item ∈ items, BreakFree item) →
      BreakFree (separator.intercalate items)
  | [], _ => nofun
  | [item], h => by rw [List.intercalate_singleton]; exact h item List.mem_cons_self
  | item :: next :: items, h => by
    rw [List.intercalate_cons_cons]
    exact ((h item List.mem_cons_self).append hs).append
      (BreakFree.intercalate hs fun i hi => h i (List.mem_cons_of_mem _ hi))

/-- A character that is no line break belongs to the first line. -/
theorem lines_cons {c : Char} {cs : List Char} (hc : isLineBreak c = false) :
    lines (c :: cs) = consLine c (lines cs) := by
  rw [lines]
  · rw [if_neg (by simp [hc])]
  · rintro _ rfl
    cases hc

/-- A boundary ends a line unless it is the first half of one. -/
theorem lines_break {c : Char} {cs : List Char} (hc : isLineBreak c = true)
    (hcs : c = '\r' → cs.head? ≠ some '\n') : lines (c :: cs) = [] :: lines cs := by
  rw [lines]
  · rw [if_pos hc]
  · rintro cs' rfl rfl
    exact hcs rfl rfl

/-- A line is what stands in front of its end. -/
theorem lines_append {l cs : List Char} {ls : List (List Char)} (hl : BreakFree l)
    (h : lines cs = [] :: ls) : lines (l ++ cs) = l :: ls := by
  induction l with
  | nil => exact h
  | cons c l ih =>
    rw [List.cons_append, lines_cons (hl c List.mem_cons_self),
      ih fun d hd => hl d (List.mem_cons_of_mem _ hd)]
    rfl

/-- A text without boundaries is one line, if it is not empty. -/
theorem lines_of_breakFree : ∀ {l : List Char}, BreakFree l → l ≠ [] → lines l = [l]
  | [], _, hne => absurd rfl hne
  | [c], hl, _ => by rw [lines_cons (hl c List.mem_cons_self)]; rfl
  | c :: d :: l, hl, _ => by
    rw [lines_cons (hl c List.mem_cons_self),
      lines_of_breakFree (fun e he => hl e (List.mem_cons_of_mem _ he)) nofun]
    rfl

/-- Lines as parts of a text, the first one at its start. -/
structure LinesOf (cs : List Char) (ls : List (List Char)) : Prop where
  parts : ∀ l ∈ ls, l <:+: cs
  first : ∀ l, ls.head? = some l → l <+: cs

/-- A boundary puts an empty line in front. -/
theorem LinesOf.cons_nil {cs : List Char} {ls : List (List Char)} (h : LinesOf cs ls)
    (start : List Char) : LinesOf (start ++ cs) ([] :: ls) where
  parts l hl := by
    rcases List.mem_cons.1 hl with rfl | hl
    · exact List.nil_infix
    · exact (h.parts l hl).trans (List.suffix_append ..).isInfix
  first l hl := by
    obtain rfl := Option.some.inj hl
    exact List.nil_prefix

/-- Another character makes the first line longer. -/
theorem LinesOf.consLine {c : Char} {cs : List Char} {ls : List (List Char)} (h : LinesOf cs ls) :
    LinesOf (c :: cs) (consLine c ls) := by
  cases ls with
  | nil =>
    refine ⟨fun l hl => ?_, fun l hl => ?_⟩
    · rw [List.mem_singleton.1 hl]; exact ⟨[], cs, rfl⟩
    · obtain rfl := Option.some.inj hl; exact ⟨cs, rfl⟩
  | cons line ls =>
    have hline : c :: line <+: c :: cs := List.cons_prefix_cons.2 ⟨rfl, h.first line rfl⟩
    refine ⟨fun l hl => ?_, fun l hl => ?_⟩
    · rcases List.mem_cons.1 hl with rfl | hl
      · exact hline.isInfix
      · exact (h.parts l (List.mem_cons_of_mem _ hl)).trans (List.suffix_cons ..).isInfix
    · obtain rfl := Option.some.inj hl; exact hline

/-- The lines of a text are its lines. -/
theorem linesOf_lines (cs : List Char) : LinesOf cs (lines cs) := by
  fun_induction lines cs with
  | case1 => exact ⟨nofun, nofun⟩
  | case2 cs ih => exact ih.cons_nil ['\r', '\n']
  | case3 c cs _ _ ih => exact ih.cons_nil [c]
  | case4 c cs _ _ ih => exact ih.consLine

/-- A line is a part of the text. -/
theorem infix_of_mem_lines {cs l : List Char} (h : l ∈ lines cs) : l <:+: cs :=
  (linesOf_lines cs).parts l h

/-! ## Joined lines -/

/-- The first of some joined lines ends where its end begins. -/
theorem lines_append_lineEnd {e l rest : List Char} (he : IsLineEnd e) (hl : BreakFree l)
    (hrest : e = ['\r'] → rest.head? ≠ some '\n') : lines (l ++ (e ++ rest)) = l :: lines rest := by
  refine lines_append hl ?_
  cases he with
  | crlf => rfl
  | single hc => exact lines_break hc fun h => hrest (by rw [h])

/-- Joined lines start with a line feed only if it is the line end. -/
theorem head?_intercalate {e : List Char} (he : e = ['\r']) : ∀ {ls : List (List Char)},
    (∀ l ∈ ls, BreakFree l) → (e.intercalate ls).head? ≠ some '\n'
  | [], _ => nofun
  | [] :: [], _ => nofun
  | [] :: next :: ls, _ => by
    rw [List.intercalate_cons_cons, he]
    nofun
  | (c :: l) :: ls, h => fun hc => by
    obtain rfl : c = '\n' := by
      cases ls with
      | nil => exact Option.some.inj hc
      | cons next ls => rw [List.intercalate_cons_cons] at hc; exact Option.some.inj hc
    cases h _ List.mem_cons_self _ List.mem_cons_self

/-- **Joined lines come apart.** Of lines that are joined by a line end those of a kind are found again, if
the empty line is not of that kind. -/
theorem filter_lines_intercalate {p : List Char → Bool} (hp : p [] = false) {e : List Char}
    (he : IsLineEnd e) : ∀ {ls : List (List Char)}, (∀ l ∈ ls, BreakFree l) →
      (lines (e.intercalate ls)).filter p = ls.filter p
  | [], _ => rfl
  | [[]], _ => (List.filter_cons_of_neg (by simp [hp])).symm
  | [c :: l], h => by
    rw [List.intercalate_singleton, lines_of_breakFree (h _ List.mem_cons_self) nofun]
  | l :: next :: ls, h => by
    have hrest : ∀ l ∈ next :: ls, BreakFree l := fun l hl => h l (List.mem_cons_of_mem _ hl)
    rw [List.intercalate_cons_cons, List.append_assoc,
      lines_append_lineEnd he (h l List.mem_cons_self) fun hcr => head?_intercalate hcr hrest,
      List.filter_cons, List.filter_cons, filter_lines_intercalate hp he hrest]

end ClusterPlan.Text
