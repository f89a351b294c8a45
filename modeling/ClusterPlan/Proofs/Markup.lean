import ClusterPlan.Console.Paragraph
import ClusterPlan.Console.Markup
import ClusterPlan.Proofs.Rejection

/-!
# Markup

A text without an opening bracket has no tags, so it can be read, and only the names of pictures in it give way
(`Console.readMarkup_eq`). What a marked text is laid out to has no styles but those of its tags
(`Console.Marked.Styled`).
-/

namespace ClusterPlan.Console

/-! ## Texts without tags -/

/-- A tag begins with an opening bracket. -/
theorem tag?_eq_none {cs : List Char} (h : '[' ∉ cs) : tag? cs = none := by
  unfold tag?
  split
  · exact absurd List.mem_cons_self h
  · rfl

/-- A text without an opening bracket is one piece. -/
theorem markupPieces_eq {cs : List Char} (h : '[' ∉ cs) (fuel position : Nat) (plain : List Char) :
    markupPieces fuel position plain cs = plainPiece (plain.reverse ++ cs) := by
  induction fuel generalizing position plain cs with
  | zero => rw [markupPieces]
  | succ fuel ih =>
    cases cs with
    | nil => rw [markupPieces, List.append_nil]
    | cons c cs =>
      rw [markupPieces]
      simp only [tag?_eq_none fun hm => h (List.mem_of_mem_drop hm)]
      rw [ih fun hm => h (List.mem_of_mem_drop hm), List.reverse_append, List.reverse_reverse, List.append_assoc,
        List.take_append_drop]

/-- Only in front of brackets is a backslash an escape. -/
theorem dropBracketEscapes_eq_self {cs : List Char} (h : '[' ∉ cs) : dropBracketEscapes cs = cs := by
  induction cs with
  | nil => rw [dropBracketEscapes]
  | cons c cs ih =>
    rw [List.mem_cons, not_or] at h
    rw [dropBracketEscapes, ih h.2]
    rintro cs' rfl rfl
    exact h.2 List.mem_cons_self

/-- A text without an opening bracket is read as it stands, but for the names of pictures in it and for control
characters. -/
theorem readMarkup_eq {cs : List Char} (h : '[' ∉ cs) :
    readMarkup cs = .ok (.ofText (withoutControls (withPictures cs))) := by
  have hmarked (text : List Char) : MarkupState.marked { text } = .ofText text := by
    simp [MarkupState.marked, Marked.ofText]
  rw [readMarkup, markupPieces_eq h, List.reverse_nil, List.nil_append, plainPiece]
  cases cs with
  | nil => exact congrArg Except.ok (hmarked [])
  | cons c cs =>
    have hread : MarkupState.read {} (.plain (c :: cs)) =
        .ok { text := withoutControls (withPictures (c :: cs)) } := by
      rw [MarkupState.read, dropBracketEscapes_eq_self h]
      rfl
    show (do return (← MarkupState.read {} (.plain (c :: cs))).marked) = _
    rw [hread, ← hmarked]
    rfl

/-- A lone colon at the end of a text begins no name of a picture. -/
theorem withPictures_eq_self {cs : List Char} (h : ':' ∉ cs) : withPictures (cs ++ [':']) = cs ++ [':'] := by
  have hput (fuel : Nat) : putPictures fuel (cs ++ [':']) = cs ++ [':'] := by
    induction fuel generalizing cs with
    | zero => rw [putPictures]
    | succ fuel ih =>
      cases cs with
      | nil =>
        show ':' :: putPictures fuel [] = _
        cases fuel <;> rfl
      | cons c cs =>
        rw [List.mem_cons, not_or] at h
        rw [List.cons_append, putPictures, ih h.2]
        exact fun hc => h.1 hc.symm
  exact hput _

/-! ## Styles -/

namespace Marked

/-- The styles of the spans are of a kind. -/
def Styled (S : Option (List Char) → Prop) (m : Marked) : Prop :=
  ∀ s ∈ m.spans, S s.style

variable {S : Option (List Char) → Prop} {m : Marked}

/-- Spans that are moved keep their styles. -/
theorem styled_shift {n : Nat} {spans : List Span} (h : ∀ s ∈ spans, S s.style) :
    ∀ s ∈ shift n spans, S s.style := by
  intro s hs
  obtain ⟨s', hs', rfl⟩ := List.mem_map.1 hs
  exact h s' hs'

/-- Another text under the same spans may lose some of them, but gets no others. -/
theorem Styled.withText (h : m.Styled S) (cs : List Char) : (m.withText cs).Styled S := by
  unfold Marked.withText
  split
  · intro s hs
    obtain ⟨s', hs', rfl⟩ := List.mem_map.1 hs
    exact h s' (List.mem_filter.1 hs').1
  · exact h

/-- A piece of a marked text has the styles of the spans that reach into it. -/
theorem Styled.slice (h : m.Styled S) (first last : Nat) : (m.slice first last).Styled S := by
  intro s hs
  obtain ⟨s', hs', heq⟩ := List.mem_filterMap.1 hs
  simp only [Option.ite_none_right_eq_some, Option.some.injEq] at heq
  obtain ⟨-, rfl⟩ := heq
  exact h s' hs'

/-- So has each of the pieces that it is cut into. -/
theorem Styled.slices (h : m.Styled S) (gap start : Nat) (ns : List Nat) :
    ∀ p ∈ m.slices gap start ns, p.Styled S := by
  induction ns generalizing start with
  | nil => exact fun p hp => absurd hp List.not_mem_nil
  | cons n ns ih => exact List.forall_mem_cons.2 ⟨h.slice _ _, ih _⟩

/-- Marked texts one after the other have the styles of all of them. -/
theorem styled_join {ms : List Marked} (h : ∀ m ∈ ms, m.Styled S) : (join ms).Styled S := by
  induction ms with
  | nil => exact fun s hs => absurd hs List.not_mem_nil
  | cons m ms ih =>
    obtain ⟨hm, hms⟩ := List.forall_mem_cons.1 h
    exact List.forall_mem_append.2 ⟨hm, styled_shift (ih hms)⟩

/-- The lines of a marked text have no styles but its own. -/
theorem Styled.lines (h : m.Styled S) : ∀ line ∈ m.lines, line.Styled S := by
  unfold Marked.lines
  split
  · exact List.forall_mem_singleton.2 h
  · exact h.slices _ _ _

/-- A tab that becomes spaces widens spans and makes none. -/
theorem Styled.expandTab (h : m.Styled S) (column : Nat) : (m.expandTab column).1.Styled S := by
  unfold Marked.expandTab
  split
  · intro s hs
    obtain ⟨s', hs', rfl⟩ := List.mem_map.1 hs
    split <;> exact h s' hs'
  · exact h

/-- This holds for part after part, wherever each of them starts. -/
theorem styled_expandParts {ms : List Marked} (h : ∀ m ∈ ms, m.Styled S) (column : Nat) :
    ∀ p ∈ expandParts column ms, p.Styled S := by
  induction ms generalizing column with
  | nil => exact fun p hp => absurd hp List.not_mem_nil
  | cons m ms ih =>
    obtain ⟨hm, hms⟩ := List.forall_mem_cons.1 h
    exact List.forall_mem_cons.2 ⟨hm.expandTab column, ih hms _⟩

/-- With all tabs expanded, a marked text has no styles but its own. -/
theorem Styled.expandTabs (h : m.Styled S) : m.expandTabs.Styled S := by
  unfold Marked.expandTabs
  split
  · exact styled_join (styled_expandParts (h.slices _ _ _) 0)
  · exact h

end Marked

/-- Laying out a marked text makes up no styles. -/
theorem styled_rightParagraph {S : Option (List Char) → Prop} {m : Marked} (h : m.Styled S) (width : Nat) :
    ∀ line ∈ rightParagraph width m, line.Styled S := by
  unfold rightParagraph
  split
  · exact fun p hp => absurd hp List.not_mem_nil
  · intro line hline
    obtain ⟨line, hwritten, rfl⟩ := List.mem_map.1 hline
    obtain ⟨line, hlines, rfl⟩ := List.mem_map.1 hwritten
    exact Marked.styled_shift ((((h.lines line hlines).expandTabs.withText _).withText _).withText _)

end ClusterPlan.Console
