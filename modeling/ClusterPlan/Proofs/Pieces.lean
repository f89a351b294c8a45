import Mathlib.Data.List.Infix
import ClusterPlan.Text.Pieces

/-!
# Pieces between separators

A separator of several characters cuts a text from the left: each piece ends where the separator first
occurs, and what is behind it is cut in the same way (`Cut`). There is one way to do so, and
`piecesBetween` finds it (`cut_iff`). Texts that are joined by the separator come apart as they were if
the separator first occurs where one of them ends, and for a double character that is when none of them has
it inside or has one half of it at its end (`cut_intercalate`).
-/

namespace ClusterPlan.Text

variable {separator : List Char}

/-- The separator does not begin before the end of `piece` in the text. -/
def FirstAfter (separator piece cs : List Char) : Prop :=
  ∀ earlier, earlier ++ separator <+: cs → piece.length ≤ earlier.length

/-- The pieces of a text between separators, found from the left. -/
inductive Cut (separator : List Char) : List Char → List (List Char) → Prop
  | last {cs : List Char} : ¬ separator <:+: cs → Cut separator cs [cs]
  | next {piece rest : List Char} {ps : List (List Char)} :
      FirstAfter separator piece (piece ++ (separator ++ rest)) → Cut separator rest ps →
      Cut separator (piece ++ (separator ++ rest)) (piece :: ps)

namespace Cut

/-- There is one way to cut a text. -/
theorem unique {cs : List Char} {ps qs : List (List Char)} (h : Cut separator cs ps)
    (h' : Cut separator cs qs) : ps = qs := by
  induction h generalizing qs with
  | last hnot =>
    cases h' with
    | last => rfl
    | next => exact absurd ⟨_, _, List.append_assoc ..⟩ hnot
  | @next piece rest ps hfirst _ ih =>
    generalize hcs : piece ++ (separator ++ rest) = cs' at h'
    cases h' with
    | last hnot => subst hcs; exact absurd ⟨_, _, List.append_assoc ..⟩ hnot
    | @next piece' rest' qs hfirst' hrest' =>
      have hle := hfirst piece' (hcs ▸ ⟨rest', List.append_assoc ..⟩)
      have hge := hfirst' piece (hcs ▸ ⟨rest, List.append_assoc ..⟩)
      obtain ⟨hpiece, hrest⟩ := List.append_inj hcs (Nat.le_antisymm hle hge)
      subst hpiece
      obtain rfl := List.append_cancel_left hrest
      rw [ih hrest']

/-- The pieces are parts of the text. -/
theorem infix_of_mem {cs : List Char} {ps : List (List Char)} (h : Cut separator cs ps)
    {p : List Char} (hp : p ∈ ps) : p <:+: cs := by
  induction h with
  | last => rw [List.mem_singleton.1 hp]
  | @next piece rest ps _ _ ih =>
    rcases List.mem_cons.1 hp with rfl | hp
    · exact (List.prefix_append ..).isInfix
    · refine (ih hp).trans ?_
      rw [← List.append_assoc]
      exact (List.suffix_append ..).isInfix

end Cut

namespace FirstAfter

variable {piece cs : List Char} {c : Char}

/-- A separator that does not begin before the end of a text is not in it. -/
theorem not_infix (hne : separator ≠ []) (h : FirstAfter separator cs cs) : ¬ separator <:+: cs := by
  rintro ⟨earlier, rest, heq⟩
  have hle := h earlier ⟨rest, heq⟩
  have hlen := congrArg List.length heq
  rw [List.length_append, List.length_append] at hlen
  exact hne (List.length_eq_zero_iff.1 (by omega))

/-- A separator that does not begin right behind a piece does not begin in the piece with one more character. -/
theorem concat (h : FirstAfter separator piece (piece ++ c :: cs)) (hstart : ¬ separator <+: c :: cs) :
    FirstAfter separator (piece ++ [c]) (piece ++ c :: cs) := by
  intro earlier hearlier
  have hle := h earlier hearlier
  rw [List.length_append, List.length_singleton]
  refine Nat.lt_of_le_of_ne hle fun heq => hstart ?_
  obtain ⟨rest, hrest⟩ := hearlier
  rw [List.append_assoc] at hrest
  obtain ⟨-, hrest⟩ := List.append_inj hrest heq.symm
  exact ⟨rest, hrest⟩

end FirstAfter

/-- The text is cut as `piecesBetween` does it, if the separator does not begin in what was taken in so
far. -/
theorem cut_piecesBetween (hne : separator ≠ []) {fuel : Nat} {piece cs : List Char}
    (hfuel : cs.length < fuel) (hfirst : FirstAfter separator piece.reverse (piece.reverse ++ cs)) :
    Cut separator (piece.reverse ++ cs) (piecesBetween separator fuel piece cs) := by
  induction fuel generalizing piece cs with
  | zero => exact absurd hfuel (Nat.not_lt_zero _)
  | succ fuel ih =>
    cases cs with
    | nil =>
      rw [List.append_nil] at hfirst
      rw [piecesBetween, List.append_nil]
      exact .last (hfirst.not_infix hne)
    | cons c cs =>
      rw [piecesBetween]
      split
      · next hstart =>
        obtain ⟨rest, hrest⟩ := List.isPrefixOf_iff_prefix.1 hstart
        have hdrop : cs.drop (separator.length - 1) = rest := by
          obtain ⟨s, ss, rfl⟩ := List.exists_cons_of_ne_nil hne
          obtain ⟨-, rfl⟩ := List.cons.inj hrest
          exact List.drop_left ..
        have hlen : rest.length < fuel := by
          have := congrArg List.length hrest
          rw [List.length_append, List.length_cons] at this
          have := List.length_pos_iff.2 hne
          rw [List.length_cons] at hfuel
          omega
        rw [← hrest] at hfirst ⊢
        rw [hdrop]
        have hpieces : Cut separator rest (piecesBetween separator fuel [] rest) :=
          @ih [] rest hlen fun _ _ => Nat.zero_le _
        exact .next hfirst hpieces
      · next hstart =>
        have hcons : piece.reverse ++ c :: cs = (c :: piece).reverse ++ cs := by simp
        have hnext := hfirst.concat fun h => hstart (List.isPrefixOf_iff_prefix.2 h)
        rw [← List.reverse_cons, hcons] at hnext
        rw [hcons]
        exact ih (Nat.lt_of_succ_lt_succ hfuel) hnext

/-- **Cutting a text.** The pieces of a text are those that `piecesBetween` finds. -/
theorem cut_iff (hne : separator ≠ []) {cs : List Char} {ps : List (List Char)} :
    Cut separator cs ps ↔ piecesBetween separator (cs.length + 1) [] cs = ps := by
  have h : Cut separator cs (piecesBetween separator (cs.length + 1) [] cs) :=
    @cut_piecesBetween separator hne _ [] cs (Nat.lt_succ_self _) fun _ _ => Nat.zero_le _
  exact ⟨fun h' => h.unique h', fun h' => h' ▸ h⟩

/-! ## Joined texts -/

/-- A doubled character does not begin before the end of a text that does not have it inside and does not
end with the character. -/
theorem firstAfter_doubled {c : Char} {item rest : List Char} (hin : ¬ [c, c] <:+: item)
    (hlast : item.getLast? ≠ some c) : FirstAfter [c, c] item (item ++ ([c, c] ++ rest)) := by
  intro earlier h
  refine Nat.le_of_not_lt fun hlt => ?_
  obtain ⟨tail, rfl⟩ : earlier <+: item :=
    List.prefix_of_prefix_length_le ((List.prefix_append ..).trans h) (List.prefix_append ..)
      (Nat.le_of_lt hlt)
  rw [List.append_assoc, List.prefix_append_right_inj] at h
  cases tail with
  | nil => simp at hlt
  | cons d tail =>
    obtain ⟨rfl, htail⟩ : c = d ∧ [c] <+: tail ++ ([c, c] ++ rest) := List.cons_prefix_cons.1 h
    cases tail with
    | nil => exact hlast (by simp)
    | cons e tail =>
      obtain rfl : c = e := (List.cons_prefix_cons.1 htail).1
      exact hin ⟨earlier, tail, by simp⟩

/-- A doubled character does not arise where two texts are joined by another character. -/
theorem not_infix_join {c d : Char} (hne : d ≠ c) {front back : List Char} (hf : ¬ [c, c] <:+: front)
    (hb : ¬ [c, c] <:+: back) : ¬ [c, c] <:+: front ++ d :: back := by
  rw [List.infix_append_iff]
  rintro (h | h | ⟨l₁, l₂, hl, h₁, h₂⟩)
  · exact hf h
  · rcases List.infix_cons_iff.1 h with h | h
    · exact hne (List.cons_prefix_cons.1 h).1.symm
    · exact hb h
  · cases l₂ with
    | nil =>
      rw [List.append_nil] at hl
      exact hf (hl ▸ h₁.isInfix)
    | cons e l₂ =>
      have he : e ∈ [c, c] := hl ▸ List.mem_append_right _ List.mem_cons_self
      obtain rfl : e = d := (List.cons_prefix_cons.1 h₂).1
      exact hne (by simpa using he)

/-- Texts that are joined by a doubled character are its pieces. -/
theorem cut_intercalate {c : Char} : ∀ {items : List (List Char)}, items ≠ [] →
    (∀ item ∈ items, ¬ [c, c] <:+: item ∧ item.getLast? ≠ some c) →
    Cut [c, c] ([c, c].intercalate items) items
  | [item], _, h => by
    rw [List.intercalate_singleton]
    exact .last (h item List.mem_cons_self).1
  | item :: next :: items, _, h => by
    have ⟨hin, hlast⟩ := h item List.mem_cons_self
    rw [List.intercalate_cons_cons, List.append_assoc]
    exact .next (firstAfter_doubled hin hlast)
      (cut_intercalate nofun fun i hi => h i (List.mem_cons_of_mem _ hi))

end ClusterPlan.Text
