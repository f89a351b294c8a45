import ClusterPlan.Console.Grid
import ClusterPlan.Proofs.Cells
import ClusterPlan.Proofs.Format
import ClusterPlan.Proofs.Lines
import ClusterPlan.Proofs.Markup
import ClusterPlan.Proofs.Writable

/-!
# Rows of a grid

A value whose written lines have room in their column is shown line by line, each up to the blanks at its end
(`Console.leftParagraph_shows`). Its label stands before the first of them and nothing before the others
(`Console.ShowEntry`), if it is a text of narrow characters on one line. A grid shows such entries where its
columns have room (`Console.gridLines_show`), and fails only at a label that cannot be drawn or at a style
(`Console.gridLines_eq_error`).
-/

namespace ClusterPlan.Console

/-! ## Values -/

/-- A line that has room is shown flushed left. -/
theorem shows_flushLeft {width : Nat} {cs : List Char} (h : cells cs ≤ width) :
    ((Line.ofText (flushLeft width (dropExcessBlanks width cs))).fit width).Shows width [] cs := by
  obtain ⟨blanks, dropped, hblanks, hdrop, hcs⟩ := exists_dropExcessBlanks_eq width cs
  have hle := cells_append_le (dropExcessBlanks width cs) dropped
  rw [hcs] at hle
  generalize dropExcessBlanks width cs = kept at hdrop hle ⊢
  have hspaces : cells (kept ++ spaces (width - cells kept)) ≤ cells kept + (width - cells kept) :=
    cellsBehind_spaces_le ..
  rw [Nat.add_sub_cancel' (Nat.le_trans hle h)] at hspaces
  rw [flushLeft, if_neg (by omega)]
  generalize width - cells kept = n at hspaces ⊢
  have hroom : Line.cells (.ofText (kept ++ spaces n)) ≤ width := hspaces
  obtain ⟨hcells, htext⟩ := Line.fit_of_le hroom
  refine ⟨hcells, blanks ++ spaces n ++ spaces (width - Line.cells (.ofText (kept ++ spaces n))),
    (hblanks.append (blank_spaces _)).append (blank_spaces _), ?_⟩
  rw [htext, Line.text_ofText, hdrop, List.nil_append]
  simp only [List.append_assoc]

/-- A value whose lines have room is shown line by line. -/
theorem leftParagraph_shows {width : Nat} {value : List Char} (h0 : width ≠ 0)
    (h : ∀ m ∈ writtenLines (.ofText value), cells m.text ≤ width) :
    List.Forall₂ (fun m line => Line.Shows (line.fit width) width [] m.text)
      (writtenLines (.ofText value)) (leftParagraph width value) := by
  rw [leftParagraph, if_neg h0]
  generalize writtenLines (.ofText value) = ms at h ⊢
  induction ms with
  | nil => exact .nil
  | cons m ms ih =>
    obtain ⟨hm, hms⟩ := List.forall_mem_cons.1 h
    rw [List.flatMap_cons, breakLine_eq_self hm]
    exact .cons (shows_flushLeft hm) (ih hms)

/-! ## Labels -/

/-- The text takes one line and a cell for every character, and does not end in a blank. -/
structure IsLabel (cs : List Char) : Prop where
  narrow : ∀ c ∈ cs, isNarrow c = true
  breakFree : Text.BreakFree cs
  noTab : '\t' ∉ cs
  ne_nil : cs ≠ []
  last : ∀ c, cs.getLast? = some c → Text.isBlank c = false

/-- A text on one line is its widest one. -/
theorem widestLine_eq {cs : List Char} (h : Text.BreakFree cs) : widestLine cs = cells cs := by
  have hlines : Text.lines cs = if cs.isEmpty then [] else [cs] := by
    induction cs with
    | nil => rfl
    | cons c cs ih =>
      obtain ⟨hc, hcs⟩ := List.forall_mem_cons.1 h
      rw [Text.lines_cons hc, ih hcs]
      cases cs <;> rfl
  rw [widestLine, hlines]
  cases cs with
  | nil => rfl
  | cons c cs => exact Nat.zero_max _

theorem writtenLines_ofText {cs : List Char} (hline : Text.BreakFree cs) (htab : '\t' ∉ cs) :
    writtenLines (.ofText cs) = [.ofText cs] := by
  have hfeed : '\n' ∉ cs := fun hmem => absurd (hline _ hmem) (by decide)
  rw [writtenLines, Marked.lines, show (Marked.ofText cs).text = cs from rfl, Text.pieces_eq_singleton hfeed,
    List.map_singleton, Marked.expandTabs, if_neg]
  show ¬ cs.contains '\t' = true
  simpa using htab

/-- A text without spans is one piece. -/
theorem toLine_ofText {cs : List Char} (h : cs ≠ []) : (Marked.ofText cs).toLine = .ofText cs := by
  have hcut (position : Nat) (piece cs : List Char) :
      Marked.cutAtSpans [] position piece cs = [piece.reverse ++ cs] := by
    induction cs generalizing position piece with
    | nil => rw [Marked.cutAtSpans, List.append_nil]
    | cons c cs ih =>
      rw [Marked.cutAtSpans, List.any_nil, if_neg Bool.false_ne_true, ih, List.reverse_cons, List.append_assoc,
        List.singleton_append]
  rw [Marked.toLine, Marked.ofText, hcut]
  simp [h, Line.ofText]

/-- A label that has room is flushed right. -/
theorem rightParagraph_label {width : Nat} {label : List Char} (h : IsLabel label)
    (hw : label.length ≤ width) :
    rightParagraph width (.ofText label) = [.ofText (spaces (width - label.length) ++ label)] := by
  have hpos := List.length_pos_iff.2 h.ne_nil
  have htrim := Text.trimEnd_eq_self h.last
  have hcells := cells_eq_length h.narrow
  have hdrop : dropExcessBlanks width label = label := by
    rw [dropExcessBlanks, show label.length - width = 0 by omega, Nat.zero_min, Nat.sub_zero, List.take_length]
  have hself (cs : List Char) : (Marked.ofText cs).withText cs = .ofText cs :=
    if_neg (Nat.lt_irrefl cs.length)
  have htext (cs : List Char) : (Marked.ofText cs).text = cs := rfl
  rw [rightParagraph, if_neg (by omega), writtenLines_ofText h.breakFree h.noTab, List.map_singleton, htext,
    hdrop, hself, flushRight, htext, htrim, hself, htext, shorten, if_neg (by omega), hself, htext, hcells]
  rfl

/-! ## Rows -/

/-- Some lines show an entry of a grid: a margin, its label and the first line of its value, and the other
lines of the value below the first one. -/
inductive ShowEntry (width margin : Nat) (label : List Char) : List (List Char) → List Line → Prop
  | intro {v : List Char} {vs : List (List Char)} {first : Line} {rest : List Line} :
    first.Shows width (spaces margin ++ label ++ spaces gridGap) v →
    List.Forall₂ (fun v line => Line.Shows line width (spaces (margin + label.length + gridGap)) v) vs rest →
    ShowEntry width margin label (v :: vs) (first :: rest)

/-- The line of a label that has room. -/
theorem text_labelLine {width : Nat} {label : List Char} (h : IsLabel label) (hw : label.length ≤ width) :
    let line := ((Marked.ofText (spaces (width - label.length) ++ label)).toLine.fit width ++
      .blank gridGap).fit (width + gridGap)
    line.cells = width + gridGap ∧ line.text = spaces (width - label.length) ++ label ++ spaces gridGap := by
  have hne : spaces (width - label.length) ++ label ≠ [] := List.append_ne_nil_of_right_ne_nil _ h.ne_nil
  have hnarrow : ∀ c ∈ spaces (width - label.length) ++ label, isNarrow c = true :=
    List.forall_mem_append.2 ⟨fun c => isNarrow_of_mem_spaces, h.narrow⟩
  have hcells : Line.cells (.ofText (spaces (width - label.length) ++ label)) = width := by
    rw [Line.cells_ofText, cells_eq_length hnarrow, List.length_append, spaces, List.length_replicate]
    omega
  intro line
  have hline : line = .ofText (spaces (width - label.length) ++ label) ++ .blank gridGap := by
    show (((Marked.ofText _).toLine.fit width ++ .blank gridGap).fit (width + gridGap) : Line) = _
    rw [toLine_ofText hne, Line.fit_eq_self hcells, Line.fit_eq_self]
    rw [Line.cells_append, hcells, Line.cells_blank]
  rw [hline, Line.cells_append, hcells, Line.cells_blank, Line.text_append, Line.text_ofText, Line.text_blank]
  exact ⟨rfl, rfl⟩

/-- The lines of a row whose styles are known. -/
def drawnRow (labelWidth valueWidth : Nat) (row : ShownRow) : List Line :=
  let inner := labelWidth - gridGap
  let label := (rightParagraph inner row.label).map fun m =>
    (m.toLine.fit inner ++ .blank gridGap).fit labelWidth
  let value := (leftParagraph valueWidth row.value).map (·.fit valueWidth)
  let height := max 1 (max label.length value.length)
  List.zipWith (· ++ ·) (fillColumn labelWidth height label) (fillColumn valueWidth height value)

/-- A row is drawn unless a style is not known. -/
theorem rowLines_eq (labelWidth valueWidth : Nat) (row : ShownRow) :
    rowLines labelWidth valueWidth row = (checkSpans (rightParagraph (labelWidth - gridGap) row.label)
      >>= fun _ => (if valueWidth = 0 then .ok () else row.style)
      >>= fun _ => .ok (drawnRow labelWidth valueWidth row)) := by
  unfold rowLines
  split <;> rfl

/-- A column of lines that are as wide as it is and fill it up is left as it is. -/
theorem fillColumn_eq_self {width : Nat} {lines : List Line} (h : ∀ line ∈ lines, line.cells = width) :
    fillColumn width lines.length lines = lines := by
  rw [fillColumn, Nat.sub_self, List.replicate_zero, List.append_nil]
  exact (List.map_congr_left fun line hline => Line.fit_eq_self (h line hline)).trans (List.map_id _)

/-- The lines of a value below the label of its row. -/
theorem shows_below {width indent : Nat} {vs : List (List Char)} {lines : List Line}
    (h : List.Forall₂ (fun v line => Line.Shows line width [] v) vs lines) :
    List.Forall₂ (fun v line => Line.Shows line (indent + width) (spaces indent) v) vs
      (List.zipWith (· ++ ·) (List.replicate lines.length (.blank indent)) lines) := by
  induction h with
  | nil => exact .nil
  | cons hv _ ih =>
    refine .cons ?_ ih
    have := hv.append (.blank indent)
    rwa [Line.cells_blank, Line.text_blank, List.append_nil] at this

/-- The line of a label beside the lines of its value. -/
theorem columns_show {labelWidth valueWidth margin : Nat} {label : List Char} {first : Line}
    {vs : List (List Char)} {values : List Line} (hcells : first.cells = labelWidth)
    (htext : first.text = spaces margin ++ label ++ spaces gridGap)
    (hmargin : margin + label.length + gridGap = labelWidth) (hne : vs ≠ [])
    (h : List.Forall₂ (fun v line => Line.Shows line valueWidth [] v) vs values) :
    let height := max 1 (max 1 values.length)
    ShowEntry (labelWidth + valueWidth) margin label vs
      (List.zipWith (· ++ ·) (fillColumn labelWidth height [first]) (fillColumn valueWidth height values)) := by
  intro height
  have hwidth : ∀ line ∈ values, line.cells = valueWidth := fun line hline =>
    have ⟨_, _, hline⟩ := exists_mem_of_forall₂ h hline
    hline.1
  cases h with
  | nil => exact absurd rfl hne
  | @cons v value vs values hv hvs =>
    have hheight : height = (value :: values).length := by
      show max 1 (max 1 (values.length + 1)) = values.length + 1
      omega
    rw [hheight, fillColumn_eq_self hwidth, fillColumn, List.map_singleton, Line.fit_eq_self hcells]
    refine .intro ?_ (hmargin ▸ shows_below hvs)
    have := hv.append first
    rwa [hcells, htext, List.append_nil] at this

/-- A text has a line at least. -/
theorem writtenLines_ne_nil (m : Marked) : writtenLines m ≠ [] := by
  rw [writtenLines, Ne, List.map_eq_nil_iff, Marked.lines]
  split
  · exact List.cons_ne_nil _ _
  · cases h : Text.pieces '\n' m.text with
    | nil => exact absurd (Text.pieces_eq_splitOn .. ▸ h) (List.splitOn_ne_nil _ _)
    | cons p ps => exact List.cons_ne_nil _ _

/-- A row whose label and value have room is shown. -/
theorem drawnRow_shows {labelWidth valueWidth : Nat} {label value : List Char} {style : StyleCheck}
    (hlabel : IsLabel label) (hw : label.length + gridGap ≤ labelWidth) (h0 : valueWidth ≠ 0)
    (hvalue : ∀ m ∈ writtenLines (.ofText value), cells m.text ≤ valueWidth) :
    ShowEntry (labelWidth + valueWidth) (labelWidth - gridGap - label.length) label
      ((writtenLines (.ofText value)).map Marked.text)
      (drawnRow labelWidth valueWidth ⟨.ofText label, value, style⟩) := by
  obtain ⟨inner, rfl⟩ : ∃ inner, labelWidth = inner + gridGap := ⟨_, (Nat.sub_add_cancel (by omega)).symm⟩
  have hw : label.length ≤ inner := Nat.le_of_add_le_add_right hw
  obtain ⟨hcells, htext⟩ := text_labelLine hlabel hw
  have hlines : (rightParagraph inner (.ofText label)).map (fun m =>
      ((m.toLine.fit inner ++ .blank gridGap).fit (inner + gridGap) : Line)) =
      [((Marked.ofText (spaces (inner - label.length) ++ label)).toLine.fit inner ++ .blank gridGap).fit
        (inner + gridGap)] := by
    rw [rightParagraph_label hlabel hw, List.map_singleton]
  simp only [drawnRow, Nat.add_sub_cancel, hlines, List.length_singleton]
  exact columns_show hcells htext (by omega) (by simpa using writtenLines_ne_nil _)
    (List.forall₂_map_left_iff.2 (List.forall₂_map_right_iff.2 (leftParagraph_shows h0 hvalue)))

/-! ## Grids -/

theorem gridLines_eq {room : Nat} (h : gridGap < room) (labelStyle : StyleCheck) (rows : List GridRow) :
    gridLines room labelStyle rows = (do
      let shown ← rows.mapM GridRow.shown
      labelStyle
      let lines ← shown.mapM (rowLines (gridWidths room shown).1 (gridWidths room shown).2)
      return lines.flatten.map (·.fit room)) := by
  rw [gridLines, if_neg (by omega), if_neg (by omega)]
  simp only [if_neg (Nat.not_le.2 h)]

/-- Where there is no room for more than the gap, only the style of the labels is looked up. -/
theorem gridLines_of_le {room : Nat} (h : room ≤ gridGap) (rows : List GridRow) :
    ∃ lines, gridLines room (.ok ()) rows = .ok lines := by
  by_cases h0 : room = 0
  · exact ⟨[], by rw [gridLines, if_pos h0]; rfl⟩
  · exact ⟨rows.map fun _ => .blank room, by
      rw [gridLines, if_neg h0, if_pos h]
      simp only [if_pos h]
      rfl⟩

/-- Drawing a label fails: its tags do not match, or a style in it has a numeral that cannot be read. -/
def LabelFails (label : List Char) (f : Failure) : Prop :=
  readMarkup label = .error f ∨
    ∃ m s style, readMarkup label = .ok m ∧ s ∈ m.spans ∧ s.style = some style ∧
      checkStyleLeniently style = .error f

/-- A label without an opening bracket can be drawn. -/
theorem not_labelFails {label : List Char} (h : '[' ∉ label) (f : Failure) : ¬ LabelFails label f := by
  rintro (hread | ⟨m, s, style, hread, hs, -⟩)
  · cases (readMarkup_eq h).symm.trans hread
  · obtain rfl := Except.ok.inj ((readMarkup_eq h).symm.trans hread)
    exact absurd hs List.not_mem_nil

/-- Drawing a row fails at a style of its label or of its value. -/
theorem rowLines_eq_error {labelWidth valueWidth : Nat} {row : ShownRow} {f : Failure}
    (h : rowLines labelWidth valueWidth row = .error f) :
    row.style = .error f ∨
      ∃ s ∈ row.label.spans, ∃ style, s.style = some style ∧ checkStyleLeniently style = .error f := by
  rw [rowLines_eq] at h
  rcases bind_eq_error.1 h with h | ⟨-, -, h⟩
  · obtain ⟨s, hs, h⟩ := exists_of_forM_eq_error h
    obtain ⟨line, hline, hs⟩ := List.mem_flatMap.1 hs
    obtain ⟨t, ht, hstyle⟩ := styled_rightParagraph
      (S := fun style => ∃ t ∈ row.label.spans, t.style = style) (fun t ht => ⟨t, ht, rfl⟩) _ line hline s hs
    split at h
    · next style hs => exact .inr ⟨t, ht, style, hstyle.trans hs, h⟩
    · cases h
  · rcases bind_eq_error.1 h with h | ⟨-, -, h⟩
    · split at h
      · cases h
      · exact .inl h
    · cases h

/-- Drawing a grid fails at a label or at the style of a value. -/
theorem gridLines_eq_error {room : Nat} {rows : List GridRow} {f : Failure}
    (h : gridLines room (.ok ()) rows = .error f) :
    ∃ row ∈ rows, row.style = .error f ∨ LabelFails row.label f := by
  by_cases hroom : room ≤ gridGap
  · obtain ⟨lines, hlines⟩ := gridLines_of_le hroom rows
    cases hlines.symm.trans h
  rw [gridLines_eq (Nat.not_le.1 hroom)] at h
  rcases bind_eq_error.1 h with h | ⟨shown, hshown, h⟩
  · obtain ⟨_, row, _, rfl, -, hrow⟩ := mapM_eq_error_iff.1 h
    refine ⟨row, List.mem_append_right _ List.mem_cons_self, .inr (.inl ?_)⟩
    rcases bind_eq_error.1 hrow with hread | ⟨m, -, hread⟩
    · exact hread
    · cases hread
  · rcases bind_eq_error.1 h with h | ⟨-, -, h⟩
    · cases h
    rcases bind_eq_error.1 h with h | ⟨lines, -, h⟩
    · obtain ⟨_, drawn, _, rfl, -, hdrawn⟩ := mapM_eq_error_iff.1 h
      obtain ⟨row, hrow, hread⟩ := exists_mem_of_forall₂ (mapM_eq_ok_iff.1 hshown)
        (List.mem_append_right _ List.mem_cons_self)
      obtain ⟨m, hm, hdrawn'⟩ := bind_eq_ok.1 hread
      obtain rfl := Except.ok.inj hdrawn'
      refine ⟨row, hrow, (rowLines_eq_error hdrawn).imp_right ?_⟩
      rintro ⟨s, hs, style, hstyle, hcheck⟩
      exact .inr ⟨m, s, style, hm, hs, hstyle, hcheck⟩
    · cases h

/-- The cells of the column of values that has room for them. -/
def valueColumn (values : List (List Char)) : Nat :=
  max ((values.map fun value => widestLine (withoutControls value)).foldl max 0) 1

/-- There is room for the widest label, the gap and the widest value. -/
def HasRoom (room : Nat) (rows : List GridRow) : Prop :=
  ∀ row ∈ rows, ∀ m, readMarkup row.label = .ok m →
    widestLine m.text + gridGap + valueColumn (rows.map (·.value)) ≤ room

theorem foldl_max_le_iff {a b : Nat} {ns : List Nat} : ns.foldl max a ≤ b ↔ a ≤ b ∧ ∀ n ∈ ns, n ≤ b := by
  induction ns generalizing a with
  | nil => simp
  | cons n ns ih => rw [List.foldl_cons, ih, Nat.max_le, List.forall_mem_cons, and_assoc]

/-- A wide grid has room. -/
theorem exists_hasRoom (rows : List GridRow) : ∃ enough, ∀ room, enough ≤ room → HasRoom room rows := by
  let width (row : GridRow) : Nat := (readMarkup row.label).toOption.elim 0 fun m => widestLine m.text
  refine ⟨(rows.map width).foldl max 0 + gridGap + valueColumn (rows.map (·.value)),
    fun room hroom row hrow m hm => ?_⟩
  have hwidth := (foldl_max_le_iff.1 (Nat.le_refl ((rows.map width).foldl max 0))).2 _
    (List.mem_map_of_mem hrow)
  simp only [width, hm, Except.toOption, Option.elim_some] at hwidth hroom
  omega

/-- A row is shown with the label that was read. -/
theorem forall₂_shown {rows : List GridRow} {shown : List ShownRow}
    (h : rows.mapM GridRow.shown = .ok shown) : List.Forall₂ (fun row shown =>
      readMarkup row.label = .ok shown.label ∧ shown = ⟨shown.label, withoutControls row.value, row.style⟩)
      rows shown :=
  (mapM_eq_ok_iff.1 h).imp fun _ _ hrow => by
    obtain ⟨m, hm, hrow⟩ := bind_eq_ok.1 hrow
    obtain rfl := Except.ok.inj hrow
    exact ⟨hm, rfl⟩

/-- The columns of a grid that has room are as wide as what they hold. -/
theorem gridWidths_eq {room : Nat} {rows : List GridRow} {shown : List ShownRow}
    (h : rows.mapM GridRow.shown = .ok shown) (hroom : HasRoom room rows) (hne : shown ≠ []) :
    ∃ labels, gridWidths room shown = (labels + gridGap, valueColumn (rows.map (·.value))) ∧
      labels + gridGap + valueColumn (rows.map (·.value)) ≤ room ∧
      ∀ row ∈ shown, widestLine row.label.text ≤ labels := by
  have hshown := forall₂_shown h
  have hvalues : shown.map (fun row => widestLine row.value) =
      (rows.map (·.value)).map fun value => widestLine (withoutControls value) := by
    clear h hroom hne
    induction hshown with
    | nil => rfl
    | cons hrow _ ih => rw [List.map_cons, ih, hrow.2]; rfl
  have hlabel (row : ShownRow) (hrow : row ∈ shown) :
      widestLine row.label.text + gridGap + valueColumn (rows.map (·.value)) ≤ room :=
    have ⟨row', hmem, hread, _⟩ := exists_mem_of_forall₂ hshown hrow
    hroom row' hmem row.label hread
  let labels := (shown.map fun row => widestLine row.label.text).foldl max 0
  have hle : labels + gridGap + valueColumn (rows.map (·.value)) ≤ room := by
    obtain ⟨row, hrow⟩ := List.exists_mem_of_ne_nil _ hne
    have hfirst := hlabel row hrow
    have : labels ≤ room - gridGap - valueColumn (rows.map (·.value)) := foldl_max_le_iff.2 ⟨Nat.zero_le _, by
      intro n hn
      obtain ⟨row, hrow, rfl⟩ := List.mem_map.1 hn
      have := hlabel row hrow
      omega⟩
    omega
  refine ⟨labels, ?_, hle, fun row hrow => (foldl_max_le_iff.1 (Nat.le_refl labels)).2 _
    (List.mem_map_of_mem hrow)⟩
  rw [gridWidths, hvalues]
  show (min (labels + gridGap) room, min (min (valueColumn _) room) (room - min (labels + gridGap) room)) = _
  rw [Nat.min_eq_left (by omega)]
  congr 1
  omega

/-- An entry is shown with a wider margin where its lines are moved to the right. -/
theorem ShowEntry.map {width total margin n : Nat} {label : List Char} {vs : List (List Char)}
    {lines : List Line} {g : Line → Line} (h : ShowEntry width margin label vs lines)
    (hg : ∀ line front v, Line.Shows line width front v → (g line).Shows total (spaces n ++ front) v) :
    ShowEntry total (n + margin) label vs (lines.map g) := by
  have hspaces (k : Nat) : spaces (n + k) = spaces n ++ spaces k := List.replicate_add ..
  obtain ⟨hfirst, hrest⟩ := h
  refine .intro ?_ (List.forall₂_map_right_iff.2 (hrest.imp fun v line hline => ?_))
  · rw [hspaces]
    simpa only [List.append_assoc] using hg _ _ _ hfirst
  · rw [Nat.add_assoc, Nat.add_assoc, hspaces, ← Nat.add_assoc]
    exact hg _ _ _ hline

theorem ShowEntry.fit {width total margin : Nat} {label : List Char} {vs : List (List Char)}
    {lines : List Line} (h : ShowEntry width margin label vs lines) (hw : width ≤ total) :
    ShowEntry total margin label vs (lines.map (·.fit total)) :=
  Nat.zero_add margin ▸ h.map fun _ _ _ hline => hline.fit hw

/-- Every line of an entry is as wide as the grid. -/
theorem ShowEntry.cells_eq {width margin : Nat} {label : List Char} {vs : List (List Char)}
    {lines : List Line} (h : ShowEntry width margin label vs lines) : ∀ line ∈ lines, line.cells = width := by
  obtain ⟨hfirst, hrest⟩ := h
  refine List.forall_mem_cons.2 ⟨hfirst.1, fun line hline => ?_⟩
  obtain ⟨_, _, hshows⟩ := exists_mem_of_forall₂ hrest hline
  exact hshows.1

/-- A value on one line without tabs has room in the column of its values. -/
theorem cells_le_valueColumn {values : List (List Char)} {value : List Char} (h : value ∈ values)
    (hline : Text.BreakFree value) (htab : '\t' ∉ value) :
    ∀ m ∈ writtenLines (.ofText (withoutControls value)), cells m.text ≤ valueColumn values := by
  have hline : Text.BreakFree (withoutControls value) := fun c hc => hline c (List.mem_filter.1 hc).1
  rw [writtenLines_ofText hline fun hm => htab (List.mem_filter.1 hm).1]
  refine List.forall_mem_singleton.2 (Nat.le_trans ?_ (Nat.le_max_left ..))
  rw [show (Marked.ofText (withoutControls value)).text = withoutControls value from rfl, ← widestLine_eq hline]
  exact (foldl_max_le_iff.1 (Nat.le_refl _)).2 _ (List.mem_map_of_mem h)

/-- **Entries of a grid.** Where a grid has room, it shows every entry whose label is read as it stands and whose
value has room in its column. -/
theorem gridLines_show {room : Nat} {rows : List GridRow} {row : GridRow} {lines : List Line}
    (h : gridLines room (.ok ()) rows = .ok lines) (hroom : HasRoom room rows) (hrow : row ∈ rows)
    (hread : readMarkup row.label = .ok (.ofText row.label)) (hlabel : IsLabel row.label)
    (hvalue : ∀ m ∈ writtenLines (.ofText (withoutControls row.value)),
      cells m.text ≤ valueColumn (rows.map (·.value))) :
    ∃ margin shown, ShowEntry room margin row.label
      ((writtenLines (.ofText (withoutControls row.value))).map Marked.text) shown ∧ shown <:+: lines := by
  have hpos : 0 < valueColumn (rows.map (·.value)) := Nat.lt_of_lt_of_le Nat.zero_lt_one (Nat.le_max_right ..)
  have hgap := hroom row hrow _ hread
  rw [gridLines_eq (by omega)] at h
  obtain ⟨shown, hshown, h⟩ := bind_eq_ok.1 h
  obtain ⟨⟨⟩, -, h⟩ := bind_eq_ok.1 h
  obtain ⟨drawn, hdrawn, h⟩ := bind_eq_ok.1 h
  obtain rfl := Except.ok.inj h
  obtain ⟨row', hmem, hread', hrow'⟩ := exists_mem_of_forall₂ (forall₂_shown hshown).flip hrow
  obtain ⟨labels, hwidths, hle, hlabels⟩ := gridWidths_eq hshown hroom (List.ne_nil_of_mem hmem)
  have hlabels := hlabels row' hmem
  rw [hwidths] at hdrawn
  obtain ⟨lines, hlines, hdrawn⟩ := exists_mem_of_forall₂ (mapM_eq_ok_iff.1 hdrawn).flip hmem
  rw [Except.ok.inj (hread'.symm.trans hread)] at hlabels hrow'
  rw [show (Marked.ofText row.label).text = row.label from rfl, widestLine_eq hlabel.breakFree,
    cells_eq_length hlabel.narrow] at hlabels
  rw [hrow', rowLines_eq] at hdrawn
  obtain ⟨⟨⟩, -, hdrawn⟩ := bind_eq_ok.1 hdrawn
  obtain ⟨⟨⟩, -, hdrawn⟩ := bind_eq_ok.1 hdrawn
  obtain rfl := Except.ok.inj hdrawn
  exact ⟨_, _, (drawnRow_shows hlabel (Nat.add_le_add_right hlabels _) (Nat.ne_of_gt hpos) hvalue).fit hle,
    (List.infix_of_mem_flatten hlines).map _⟩

end ClusterPlan.Console
