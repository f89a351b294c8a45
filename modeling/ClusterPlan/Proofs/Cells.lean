import ClusterPlan.Console.Paragraph
import ClusterPlan.Proofs.Trim

/-!
# Cells and lines that have room

How many cells a text takes depends on what stands around it, but only a little: a joiner swallows the character
behind it, and a selector looks at the one before it. So the parts of a text take no more cells than the whole
if none of them ends in a joiner (`Console.cells_add_le`), and a line that has room in its column is not broken
between words (`Console.breakLine_eq_self`), however many marks are in it. Fitting it only adds spaces
(`Console.Line.fit_of_le`).
-/

namespace ClusterPlan.Console

/-! ## Narrow characters -/

/-- Whether a character takes one cell, whatever stands around it. -/
def isNarrow (c : Char) : Bool :=
  c != joiner && c != selector && cellWidth c = 1

/-- Behind any character narrow characters take one cell each. -/
theorem cellsBehind_eq_length {cs : List Char} (h : ∀ c ∈ cs, isNarrow c = true) (last : Option Char) :
    cellsBehind last cs = cs.length := by
  induction cs generalizing last with
  | nil => rfl
  | cons c cs ih =>
    have hc := h c List.mem_cons_self
    simp only [isNarrow, Bool.and_eq_true, bne_iff_ne, decide_eq_true_eq] at hc
    obtain ⟨⟨hj, hs⟩, hw⟩ := hc
    rw [cellsBehind, if_neg hs, if_neg (by omega), hw, ih fun c hc => h c (List.mem_cons_of_mem _ hc),
      List.length_cons, Nat.add_comm]
    · intro h _
      exact hj h
    · intro d ds h _
      exact hj h

/-- Narrow characters take one cell each. -/
theorem cells_eq_length {cs : List Char} (h : ∀ c ∈ cs, isNarrow c = true) : cells cs = cs.length :=
  cellsBehind_eq_length h none

/-- Spaces are narrow. -/
theorem isNarrow_of_mem_spaces {n : Nat} {c : Char} (h : c ∈ spaces n) : isNarrow c = true := by
  rw [List.eq_of_mem_replicate h]
  decide +kernel

/-- A space takes one cell, whatever is in front of it. -/
theorem cellsBehind_spaces (last : Option Char) (n : Nat) : cellsBehind last (spaces n) = n := by
  rw [cellsBehind_eq_length fun _ => isNarrow_of_mem_spaces, spaces, List.length_replicate]

/-- A row of spaces takes as many cells. -/
@[simp] theorem cells_spaces (n : Nat) : cells (spaces n) = n := cellsBehind_spaces none n

/-- A row of spaces is blank. -/
theorem blank_spaces (n : Nat) : Text.Blank (spaces n) := by
  intro c hc
  rw [List.eq_of_mem_replicate hc]
  decide

/-! ## Parts of a text -/

/-- What a first character other than the joiner adds to the cells of a text. -/
theorem cellsBehind_cons {c : Char} (hc : c ≠ joiner) (last : Option Char) (cs : List Char) :
    cellsBehind last (c :: cs) =
      if c = selector then addedWidth last + cellsBehind none cs
      else if cellWidth c = 0 then cellsBehind last cs
      else cellWidth c + cellsBehind (some c) cs := by
  rw [cellsBehind]
  · exact fun h _ => hc h
  · exact fun _ _ h _ => hc h

/-- Induction on a text as it is measured: a joiner goes with the character behind it. -/
@[elab_as_elim]
theorem measureInduction {motive : List Char → Prop} (nil : motive []) (lone : motive [joiner])
    (joined : ∀ d cs, motive cs → motive (joiner :: d :: cs))
    (cons : ∀ c cs, c ≠ joiner → motive cs → motive (c :: cs)) : ∀ cs, motive cs
  | [] => nil
  | [c] => if hc : c = joiner then hc ▸ lone else cons c [] hc nil
  | c :: d :: cs =>
    if hc : c = joiner then hc ▸ joined d cs (measureInduction nil lone joined cons cs)
    else cons c (d :: cs) hc (measureInduction nil lone joined cons (d :: cs))

/-- A character before a text only adds to its cells. -/
theorem cellsBehind_none_le (last : Option Char) (cs : List Char) :
    cellsBehind none cs ≤ cellsBehind last cs := by
  induction cs using measureInduction with
  | nil | lone => exact Nat.le_refl _
  | joined d cs ih => exact ih
  | cons c cs hc ih =>
    rw [cellsBehind_cons hc, cellsBehind_cons hc]
    split
    · exact Nat.add_le_add_right (Nat.zero_le _) _
    split
    · exact ih
    · exact Nat.le_refl _

/-- A text takes no fewer cells than what it starts with. -/
theorem cellsBehind_append_le (last : Option Char) (cs ds : List Char) :
    cellsBehind last cs ≤ cellsBehind last (cs ++ ds) := by
  induction cs using measureInduction generalizing last with
  | nil | lone => exact Nat.zero_le _
  | joined d cs ih => exact ih last
  | cons c cs hc ih =>
    rw [List.cons_append, cellsBehind_cons hc, cellsBehind_cons hc]
    split
    · exact Nat.add_le_add_left (ih none) _
    split
    · exact ih last
    · exact Nat.add_le_add_left (ih (some c)) _

/-- Two texts take no more cells than both together, if the first one does not end in a joiner. -/
theorem cellsBehind_add_le {cs : List Char} (h : cs.getLast? ≠ some joiner) (last : Option Char)
    (ds : List Char) : cellsBehind last cs + cells ds ≤ cellsBehind last (cs ++ ds) := by
  have of_cons {c : Char} {cs : List Char} (h : (c :: cs).getLast? ≠ some joiner) :
      cs.getLast? ≠ some joiner := by
    cases cs with
    | nil => exact nofun
    | cons d cs => rwa [List.getLast?_cons_cons] at h
  induction cs using measureInduction generalizing last with
  | nil => exact (Nat.zero_add _).symm ▸ cellsBehind_none_le last ds
  | lone => exact absurd rfl h
  | joined d cs ih => exact ih (of_cons (of_cons h)) last
  | cons c cs hc ih =>
    have ih := ih (of_cons h)
    rw [List.cons_append, cellsBehind_cons hc, cellsBehind_cons hc]
    split
    · exact Nat.add_assoc .. ▸ Nat.add_le_add_left (ih none) _
    split
    · exact ih last
    · exact Nat.add_assoc .. ▸ Nat.add_le_add_left (ih (some c)) _

/-- Spaces behind a text take at most one cell each. -/
theorem cellsBehind_spaces_le (last : Option Char) (cs : List Char) (n : Nat) :
    cellsBehind last (cs ++ spaces n) ≤ cellsBehind last cs + n := by
  induction cs using measureInduction generalizing last with
  | nil => exact Nat.le_of_eq ((cellsBehind_spaces last n).trans (Nat.zero_add n).symm)
  | lone =>
    cases n with
    | zero => exact Nat.zero_le _
    | succ n =>
      show cellsBehind last (spaces n) ≤ 0 + (n + 1)
      rw [cellsBehind_spaces]
      omega
  | joined d cs ih => exact ih last
  | cons c cs hc ih =>
    rw [List.cons_append, cellsBehind_cons hc, cellsBehind_cons hc]
    split
    · exact Nat.add_assoc .. ▸ Nat.add_le_add_left (ih none) _
    split
    · exact ih last
    · exact Nat.add_assoc .. ▸ Nat.add_le_add_left (ih (some c)) _

/-- A text takes no fewer cells when another one follows. -/
theorem cells_append_le (cs ds : List Char) : cells cs ≤ cells (cs ++ ds) := cellsBehind_append_le none cs ds

/-- Two texts together take at least the cells of both, unless a joiner stands between them. -/
theorem cells_add_le {cs : List Char} (h : cs.getLast? ≠ some joiner) (ds : List Char) :
    cells cs + cells ds ≤ cells (cs ++ ds) :=
  cellsBehind_add_le h none ds

/-! ## Words -/

/-- Every text but the last one ends in a blank. -/
def BlankEnds (ws : List (List Char)) : Prop :=
  ∀ w ∈ ws.dropLast, ∃ c, w.getLast? = some c ∧ Text.isBlank c = true

/-- What holds of all words holds of those behind the first one. -/
theorem BlankEnds.tail {w : List Char} {ws : List (List Char)} (h : BlankEnds (w :: ws)) : BlankEnds ws := by
  cases ws with
  | nil => exact nofun
  | cons v ws => exact fun x hx => h x (List.mem_cons_of_mem _ hx)

/-- A character begins a piece of its own if it is the last blank in front of a word, and joins the next piece
otherwise. -/
theorem exists_cutBeforeWords_eq (c d : Char) (cs : List Char) : ∃ w ws,
    cutBeforeWords (d :: cs) = w :: ws ∧
    cutBeforeWords (c :: d :: cs) =
      if Text.isBlank c && !Text.isBlank d then [c] :: w :: ws else (c :: w) :: ws := by
  obtain ⟨w, ws, h⟩ : ∃ w ws, cutBeforeWords (d :: cs) = w :: ws := by
    unfold cutBeforeWords
    split
    · split <;> exact ⟨_, _, rfl⟩
    · exact ⟨_, _, rfl⟩
  refine ⟨w, ws, h, ?_⟩
  simp only [cutBeforeWords.eq_def (c :: d :: cs), h]

/-- The pieces make up the text. -/
theorem flatten_cutBeforeWords : ∀ cs : List Char, (cutBeforeWords cs).flatten = cs
  | [] | [_] => rfl
  | c :: d :: cs => by
    obtain ⟨w, ws, h, hcons⟩ := exists_cutBeforeWords_eq c d cs
    have ih := flatten_cutBeforeWords (d :: cs)
    rw [h] at ih
    rw [hcons, ← ih]
    split <;> rfl

/-- Every piece but the last one ends in a blank. -/
theorem blankEnds_cutBeforeWords : ∀ cs : List Char, BlankEnds (cutBeforeWords cs)
  | [] | [_] => nofun
  | c :: d :: cs => by
    obtain ⟨w, ws, h, hcons⟩ := exists_cutBeforeWords_eq c d cs
    have ih := blankEnds_cutBeforeWords (d :: cs)
    rw [h] at ih
    rw [hcons]
    split
    · next hc =>
      rw [Bool.and_eq_true] at hc
      intro x hx
      rcases List.mem_cons.1 hx with rfl | hx
      · exact ⟨c, rfl, hc.1⟩
      · exact ih x hx
    · cases ws with
      | nil => exact nofun
      | cons v ws =>
        intro x hx
        rcases List.mem_cons.1 hx with rfl | hx
        · obtain ⟨e, he, hblank⟩ := ih w List.mem_cons_self
          exact ⟨e, by rw [List.getLast?_cons, he]; rfl, hblank⟩
        · exact ih x (List.mem_cons_of_mem _ hx)

/-- The words and the blanks behind them make up the text. -/
theorem flatten_wordsWithBlanks (cs : List Char) : (wordsWithBlanks cs).flatten = cs := by
  have h := flatten_cutBeforeWords (Text.trimStart cs)
  unfold wordsWithBlanks
  split
  · exact List.append_nil cs
  · next w ws hws =>
    rw [hws] at h
    rw [List.flatten_cons, List.append_assoc, ← List.flatten_cons, h, Text.takeWhile_append_trimStart]

/-- Every word but the last one has a blank behind it. -/
theorem blankEnds_wordsWithBlanks (cs : List Char) : BlankEnds (wordsWithBlanks cs) := by
  have h := blankEnds_cutBeforeWords (Text.trimStart cs)
  unfold wordsWithBlanks
  split
  · exact nofun
  · next w ws hws =>
    rw [hws] at h
    cases ws with
    | nil => exact nofun
    | cons v ws =>
      intro x hx
      rcases List.mem_cons.1 hx with rfl | hx
      · obtain ⟨c, hc, hblank⟩ := h w List.mem_cons_self
        exact ⟨c, by rw [List.getLast?_append, hc, Option.some_or], hblank⟩
      · exact h x (List.mem_cons_of_mem _ hx)

/-- A word before other ones takes no more cells than it adds to them. -/
theorem BlankEnds.cells_add_le {w : List Char} {ws : List (List Char)} (h : BlankEnds (w :: ws)) :
    cells w + cells ws.flatten ≤ cells (w :: ws).flatten := by
  cases ws with
  | nil => exact Nat.le_of_eq (congrArg cells (List.append_nil w).symm)
  | cons v ws =>
    obtain ⟨c, hc, hblank⟩ := h w List.mem_cons_self
    refine Console.cells_add_le (fun hjoiner => ?_) _
    obtain rfl := Option.some.inj (hc.symm.trans hjoiner)
    exact absurd hblank (by decide)

/-! ## Lines with room -/

/-- Without the blanks at its end a text takes no more cells. -/
theorem cells_trimEnd_le (cs : List Char) : cells (Text.trimEnd cs) ≤ cells cs := by
  conv_rhs => rw [← Text.trimEnd_append_takeWhile cs]
  exact cells_append_le ..

/-- Words that have room stay on the line. -/
theorem breakWords_of_le {width used : Nat} {line : List Char} {ws : List (List Char)} (h : BlankEnds ws)
    (hw : used + cells ws.flatten ≤ width) : breakWords width used line ws = [line ++ ws.flatten] := by
  induction ws generalizing used line with
  | nil => rw [breakWords, List.flatten_nil, List.append_nil]
  | cons w ws ih =>
    have hadd := h.cells_add_le
    have htrim := cells_trimEnd_le w
    rw [breakWords, if_pos (by omega), ih h.tail (by omega), List.flatten_cons, List.append_assoc]

/-- A line that has room is not broken. -/
theorem breakLine_eq_self {width : Nat} {cs : List Char} (h : cells cs ≤ width) :
    breakLine width cs = [cs] := by
  have hflatten := flatten_wordsWithBlanks cs
  have hblank := blankEnds_wordsWithBlanks cs
  unfold breakLine
  split
  · rfl
  · next w ws hws =>
    rw [hws] at hflatten hblank
    rw [← hflatten] at h ⊢
    have hadd := hblank.cells_add_le
    rw [breakWords_of_le hblank.tail (by omega), List.flatten_cons]

/-- Blanks are dropped from the end of a line only. -/
theorem exists_dropExcessBlanks_eq (width : Nat) (cs : List Char) : ∃ blanks dropped,
    Text.Blank blanks ∧ dropExcessBlanks width cs = Text.trimEnd cs ++ blanks ∧
      dropExcessBlanks width cs ++ dropped = cs := by
  let back := (cs.reverse.takeWhile Text.isBlank).reverse
  let kept := cs.length - min (cs.length - width) (cs.reverse.takeWhile Text.isBlank).length
  have hcs : Text.trimEnd cs ++ back = cs := Text.trimEnd_append_takeWhile cs
  have hlength : (Text.trimEnd cs).length + back.length = cs.length := by
    rw [← List.length_append, hcs]
  have hback : back.length = (cs.reverse.takeWhile Text.isBlank).length := List.length_reverse
  refine ⟨back.take (kept - (Text.trimEnd cs).length), cs.drop kept, fun c hc => ?_, ?_,
    List.take_append_drop kept cs⟩
  · exact List.mem_takeWhile_imp (List.mem_reverse.1 (List.mem_of_mem_take hc))
  · show cs.take kept = _
    conv_lhs => rw [← hcs]
    rw [List.take_append, List.take_of_length_le]
    omega

namespace Line

/-- The line is `width` cells wide and shows a text behind what stands before it, up to blanks at the end. -/
def Shows (line : Line) (width : Nat) (front cs : List Char) : Prop :=
  line.cells = width ∧ ∃ blanks, Text.Blank blanks ∧ line.text = front ++ Text.trimEnd cs ++ blanks

/-- The line of a text shows it. -/
@[simp] theorem text_ofText (cs : List Char) : (ofText cs).text = cs := List.append_nil cs

/-- It takes the cells of the text. -/
@[simp] theorem cells_ofText (cs : List Char) : (ofText cs).cells = Console.cells cs := rfl

/-- A blank line shows spaces. -/
@[simp] theorem text_blank (n : Nat) : (blank n).text = spaces n := text_ofText _

/-- It takes as many cells. -/
@[simp] theorem cells_blank (n : Nat) : (blank n).cells = n := cells_spaces n

/-- Fitting a line that has room only adds spaces. -/
theorem fit_of_le {width : Nat} {line : Line} (h : line.cells ≤ width) :
    (line.fit width).cells = width ∧ (line.fit width).text = line.text ++ spaces (width - line.cells) := by
  unfold fit
  split
  · rw [cells_append, text_append, cells_blank, text_blank]
    exact ⟨by omega, rfl⟩
  · rw [crop_eq_self h, show width - line.cells = 0 by omega]
    exact ⟨by omega, (List.append_nil _).symm⟩

/-- A line still shows a text when it is fitted to more cells. -/
theorem Shows.fit {width total : Nat} {front cs : List Char} {line : Line} (h : line.Shows width front cs)
    (hw : width ≤ total) : (line.fit total).Shows total front cs := by
  obtain ⟨hcells, blanks, hblank, htext⟩ := h
  obtain ⟨hcells', htext'⟩ := fit_of_le (hcells ▸ hw)
  exact ⟨hcells', _, hblank.append (blank_spaces _), by rw [htext', htext, List.append_assoc]⟩

/-- A line still shows a text with spaces behind it. -/
theorem Shows.append_blank {width : Nat} {front cs : List Char} {line : Line} (h : line.Shows width front cs)
    (n : Nat) : (line ++ blank n).Shows (width + n) front cs := by
  obtain ⟨hcells, blanks, hblank, htext⟩ := h
  exact ⟨by rw [cells_append, hcells, cells_blank], blanks ++ spaces n, hblank.append (blank_spaces n), by
    rw [text_append, htext, text_blank, List.append_assoc]⟩

/-- A line still shows a text behind another line. -/
theorem Shows.append {width : Nat} {front cs : List Char} {line : Line} (h : line.Shows width front cs)
    (before : Line) : (before ++ line).Shows (before.cells + width) (before.text ++ front) cs := by
  obtain ⟨hcells, blanks, hblank, htext⟩ := h
  exact ⟨by rw [cells_append, hcells], blanks, hblank, by rw [text_append, htext]; simp⟩

/-- A line that takes as many cells as there are is left as it is. -/
theorem fit_eq_self {width : Nat} {line : Line} (h : line.cells = width) : line.fit width = line := by
  rw [fit, if_neg (by omega), crop_eq_self (by omega)]

end Line

end ClusterPlan.Console
