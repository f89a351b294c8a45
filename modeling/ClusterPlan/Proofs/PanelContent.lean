import ClusterPlan.Proofs.Grid
import ClusterPlan.Proofs.Ordered
import ClusterPlan.Proofs.PanelSettings

/-!
# What panels show

The keys of a configuration are labels of a grid, and labels are markup. So a plan that has a document may have no
panel: a label whose tags do not match cannot be read. That is all that can keep a panel from being drawn, and on
a console with room a panel shows every printable key that markup leaves as it is, with its value behind it
(`Plan.panel_of_document`).
-/

namespace ClusterPlan

namespace Plan

section
variable {p : Plan} {settings : Settings} {styles : PanelStyles} {least most : Option Int} {console : Nat}
  {document text : String} {strings : Ordered String} {title : List Char}

/-! ## Rows -/

/-- The rows of a configuration that has been written. -/
def entryRows (strings : Ordered String) : List Console.GridRow :=
  strings.entries.map fun (k, s) => ⟨label k, s.toList, .ok ()⟩

/-- The rows of the configuration are the entries as texts. -/
theorem configurationRows_eq (hs : settings.Presents styles least most)
    (h : p.descriptor.configuration.toStrings settings.tolerance = .ok strings) :
    p.configurationRows settings.tolerance styles = .ok (entryRows strings) := by
  rw [configurationRows, h, hs.value]
  rfl

/-- A configuration that can be written has a deployment target with a text. -/
theorem exists_targetText {tolerance : Tolerance} {c : Configuration}
    (h : c.toStrings tolerance = .ok strings) :
    ∃ text, ((c.value? .target).getD .null).text tolerance = .ok text := by
  cases hv : c.get? ConfigOption.target.key with
  | none => exact ⟨"None", by rw [Configuration.value?, hv]; rfl⟩
  | some v =>
    obtain ⟨text, htext, -⟩ := Ordered.get?_of_traverse h hv
    exact ⟨text, by rw [Configuration.value?, hv]; exact htext⟩

/-- A plan that has a document has the rows of its panel. -/
theorem exists_rows (hs : settings.Presents styles least most)
    (h : p.document settings.tolerance = .ok document) :
    ∃ strings title specification,
      p.descriptor.configuration.toStrings settings.tolerance = .ok strings ∧ p.title = .ok title ∧
      p.specificationRows settings.tolerance styles = .ok specification ∧
      ∀ row ∈ specification, row.style = .ok () ∧ '[' ∉ row.label := by
  obtain ⟨id, hid, h⟩ := bind_eq_ok.1 h
  obtain ⟨strings, hstrings, h⟩ := bind_eq_ok.1 h
  obtain ⟨master, hmaster, h⟩ := bind_eq_ok.1 h
  obtain ⟨worker, hworker, h⟩ := bind_eq_ok.1 h
  obtain ⟨slots, hslots, -⟩ := bind_eq_ok.1 h
  obtain ⟨target, htarget⟩ := exists_targetText hstrings
  refine ⟨strings, _, _, hstrings, by rw [title, hid]; rfl, by
    simp only [specificationRows, htarget, hmaster, hworker, hslots, ok_bind]; rfl, ?_⟩
  have hlabel : ∀ key ∈ ["Target", "Job manager memory", "Task manager memory", "Slots per task manager",
      "Node label", "Ship files"], '[' ∉ label key := by decide +kernel
  intro row hrow
  have hrow : row.style = .ok () ∧ ∃ key ∈ ["Target", "Job manager memory", "Task manager memory",
      "Slots per task manager", "Node label", "Ship files"], row.label = label key := by
    simp only [List.mem_append, List.mem_cons, List.not_mem_nil, or_false, Option.mem_toList,
      Option.map_eq_some_iff] at hrow
    rcases hrow with ((rfl | rfl | rfl | rfl) | ⟨_, -, rfl⟩) | rfl
    iterate 5 exact ⟨hs.value, _, by simp, rfl⟩
    · split
      · exact ⟨hs.notes, _, by simp, rfl⟩
      · exact ⟨hs.value, _, by simp, rfl⟩
  obtain ⟨hstyle, key, hkey, hrow⟩ := hrow
  exact ⟨hstyle, hrow ▸ hlabel key hkey⟩

/-! ## The inside of the frame -/

/-- The lines inside the frame around its two grids. -/
def bodyLines (width : Nat) (upper lower : List Console.Line) : List Console.Line :=
  .blank width :: upper
    ++ [.blank width, .ofText (Console.headingRule width "CONFIGURATION".toList), .blank width]
    ++ lower ++ [.blank width]

/-- The inside of a panel is two grids and what is between them. -/
theorem panelBody_eq (hs : settings.Presents styles least most) {width : Nat} (h : width ≠ 0)
    (specification configuration : List Console.GridRow) :
    panelBody width styles specification configuration = (indentedGrid width styles specification
      >>= fun upper => indentedGrid width styles configuration
      >>= fun lower => .ok (bodyLines width upper lower)) := by
  rw [panelBody, if_neg h]
  simp only [hs.rule, hs.heading, ok_bind, ite_self]
  rfl

/-- A line of a grid with a margin of two cells on either side. -/
def indentedLine (width : Nat) (line : Console.Line) : Console.Line :=
  ((.blank 2 ++ line ++ .blank 2 : Console.Line).fit width).fit width

/-- A grid is drawn in what is left beside the indents, and indented. -/
theorem indentedGrid_eq (hs : settings.Presents styles least most) (width : Nat) (rows : List Console.GridRow) :
    indentedGrid width styles rows = (Console.gridLines (width - 4) (.ok ()) rows >>= fun lines =>
      .ok (lines.map (indentedLine width))) := by
  rw [indentedGrid, hs.key]
  rfl

/-! ## Failures -/

/-- The inside of a frame fails at a row. -/
theorem exists_of_panelBody_eq_error (hs : settings.Presents styles least most) {width : Nat}
    {specification configuration : List Console.GridRow} {f : Failure}
    (h : panelBody width styles specification configuration = .error f) :
    ∃ row ∈ specification ++ configuration, row.style = .error f ∨ Console.LabelFails row.label f := by
  have of_grid {rows : List Console.GridRow} (h : indentedGrid width styles rows = .error f) :
      ∃ row ∈ rows, row.style = .error f ∨ Console.LabelFails row.label f := by
    rw [indentedGrid_eq hs] at h
    rcases bind_eq_error.1 h with h | ⟨lines, -, h⟩
    · exact Console.gridLines_eq_error h
    · cases h
  by_cases h0 : width = 0
  · rw [panelBody, if_pos h0] at h
    cases h
  rw [panelBody_eq hs h0] at h
  rcases bind_eq_error.1 h with h | ⟨upper, -, h⟩
  · obtain ⟨row, hrow, h⟩ := of_grid h
    exact ⟨row, List.mem_append_left _ hrow, h⟩
  rcases bind_eq_error.1 h with h | ⟨lower, -, h⟩
  · obtain ⟨row, hrow, h⟩ := of_grid h
    exact ⟨row, List.mem_append_right _ hrow, h⟩
  · cases h

/-- A panel fails at nothing but a label of the configuration. -/
theorem exists_of_panel_eq_error (hs : settings.Presents styles least most)
    (hdocument : p.document settings.tolerance = .ok document)
    (hstrings : p.descriptor.configuration.toStrings settings.tolerance = .ok strings) {f : Failure}
    (h : p.panel settings console = .error f) : ∃ key ∈ strings.keys, Console.LabelFails (label key) f := by
  obtain ⟨strings', title, specification, hstrings', htitle, hspecification, hrows⟩ := exists_rows hs hdocument
  obtain rfl := Except.ok.inj (hstrings.symm.trans hstrings')
  have hconfiguration := configurationRows_eq hs hstrings
  by_cases hconsole : console = 0
  · subst hconsole
    cases (panel_zero hs hspecification hconfiguration htitle).symm.trans h
  rw [panel_eq hs hconsole hspecification hconfiguration htitle] at h
  rcases bind_eq_error.1 h with h | ⟨body, -, h⟩
  · obtain ⟨row, hrow, h⟩ := exists_of_panelBody_eq_error hs h
    rcases List.mem_append.1 hrow with hrow | hrow
    · -- the styles of the upper grid are known, and no label there has a tag
      obtain ⟨hstyle, hlabel⟩ := hrows row hrow
      rcases h with h | h
      · cases hstyle.symm.trans h
      · exact absurd h (Console.not_labelFails hlabel f)
    · obtain ⟨⟨key, s⟩, hentry, rfl⟩ := List.mem_map.1 hrow
      rcases h with h | h
      · cases h
      · exact ⟨key, List.mem_map_of_mem hentry, h⟩
  · cases h

/-! ## Contents -/

/-- The lower grid of a panel is that of the configuration. -/
theorem exists_gridLines_of_panel (hs : settings.Presents styles least most)
    (hdocument : p.document settings.tolerance = .ok document) (htitle : p.title = .ok title)
    (hstrings : p.descriptor.configuration.toStrings settings.tolerance = .ok strings)
    (h : p.panel settings console = .ok text) {inner : Nat}
    (hinner : innerCells least most console title = inner) (h0 : inner ≠ 0) :
    ∃ upper lines, Console.gridLines (inner - 4) (.ok ()) (entryRows strings) = .ok lines ∧
      text = Console.printed console (.blank 0 :: Console.framed inner title
        (bodyLines inner upper (lines.map (indentedLine inner))) ++ [.blank 0]) := by
  obtain ⟨strings', title', specification, hstrings', htitle', hspecification, -⟩ := exists_rows hs hdocument
  obtain rfl := Except.ok.inj (hstrings.symm.trans hstrings')
  obtain rfl := Except.ok.inj (htitle.symm.trans htitle')
  have hle := innerCells_le least most console title
  rw [panel_eq hs (by omega) hspecification (configurationRows_eq hs hstrings) htitle, hinner,
    panelBody_eq hs h0] at h
  obtain ⟨body, hbody, h⟩ := bind_eq_ok.1 h
  obtain ⟨upper, -, hbody⟩ := bind_eq_ok.1 hbody
  obtain ⟨lower, hlower, hbody⟩ := bind_eq_ok.1 hbody
  rw [indentedGrid_eq hs] at hlower
  obtain ⟨lines, hlines, hlower⟩ := bind_eq_ok.1 hlower
  obtain rfl := Except.ok.inj hlower
  obtain rfl := Except.ok.inj hbody
  exact ⟨upper, lines, hlines, (Except.ok.inj h).symm⟩

/-- A line in a margin still shows its text. -/
theorem shows_indentedLine {width : Nat} (hw : 4 ≤ width) {line : Console.Line} {front v : List Char}
    (h : line.Shows (width - 4) front v) :
    (indentedLine width line).Shows width (Console.spaces 2 ++ front) v := by
  have h := (h.append (.blank 2)).append_blank 2
  rw [Console.Line.text_blank, Console.Line.cells_blank, show 2 + (width - 4) + 2 = width by omega] at h
  exact (h.fit (Nat.le_refl width)).fit (Nat.le_refl width)

/-- What a frame shows of lines inside it. -/
def framedText (lines : List Console.Line) : List Char :=
  lines.flatMap fun line => '│' :: line.text ++ ['│', '\n']

/-- Lines that fill a frame are printed as they are. -/
theorem exists_printed_framed_eq {width : Nat} (hw : width + 2 ≤ console) (title : List Char)
    {shown body : List Console.Line} (h : shown <:+: body) (hcells : ∀ line ∈ shown, line.cells = width) :
    ∃ front rest, Console.printed console (.blank 0 :: Console.framed width title body ++ [.blank 0]) =
      front ++ .ofList (framedText shown) ++ rest := by
  let print (line : Console.Line) : List Char := (line.crop console).text ++ ['\n']
  let frame (line : Console.Line) : Console.Line := .ofText ['│'] ++ line ++ .ofText ['│']
  have hprint (line : Console.Line) (hline : line ∈ shown) :
      print (frame line) = '│' :: line.text ++ ['│', '\n'] := by
    have hbar : Console.cells ['│'] = 1 := by decide +kernel
    have hframe : (frame line).cells ≤ console := by
      rw [Console.Line.cells_append, Console.Line.cells_append, Console.Line.cells_ofText, hbar,
        hcells line hline]
      omega
    show ((frame line).crop console).text ++ ['\n'] = _
    rw [Console.Line.crop_eq_self hframe, Console.Line.text_append, Console.Line.text_append,
      Console.Line.text_ofText]
    simp
  have hshown : (shown.map frame).flatMap print = framedText shown := by
    rw [List.flatMap_map]
    exact List.flatMap_congr hprint
  obtain ⟨before, after, rfl⟩ := h
  let above : List Console.Line := .blank 0 :: .ofText (Console.upperEdge width title) :: before.map frame
  let below : List Console.Line :=
    after.map frame ++ [.ofText ('╰' :: Console.bar width ++ ['╯'])] ++ [.blank 0]
  have hlines : .blank 0 :: Console.framed width title (before ++ shown ++ after) ++ [.blank 0] =
      above ++ (shown.map frame ++ below) := by
    simp [Console.framed, above, below, frame]
  refine ⟨.ofList (above.flatMap print), .ofList (below.flatMap print), ?_⟩
  rw [Console.printed, hlines, List.flatMap_append, List.flatMap_append]
  show String.ofList (above.flatMap print ++ ((shown.map frame).flatMap print ++ below.flatMap print)) = _
  rw [hshown, ← String.ofList_append, ← String.ofList_append, List.append_assoc]

/-- Where there is room for labels, a panel shows only labels that can be read. -/
theorem exists_readMarkup_of_panel (hs : settings.Presents styles least most)
    (hdocument : p.document settings.tolerance = .ok document) (htitle : p.title = .ok title)
    (hstrings : p.descriptor.configuration.toStrings settings.tolerance = .ok strings)
    (h : p.panel settings console = .ok text)
    (hroom : Console.gridGap + 4 < innerCells least most console title) :
    ∀ key ∈ strings.keys, ∃ m, Console.readMarkup (label key) = .ok m := by
  obtain ⟨upper, lines, hlines, -⟩ :=
    exists_gridLines_of_panel hs hdocument htitle hstrings h rfl (by omega)
  rw [Console.gridLines_eq (by omega)] at hlines
  obtain ⟨shown, hshown, -⟩ := bind_eq_ok.1 hlines
  intro key hkey
  obtain ⟨entry, hentry, rfl⟩ := List.mem_map.1 hkey
  obtain ⟨row, -, hread, -⟩ :=
    exists_mem_of_forall₂ (Console.forall₂_shown hshown).flip (List.mem_map_of_mem hentry)
  exact ⟨row.label, hread⟩

/-! ## Labels of keys -/

/-- The key is made of the printable characters of ASCII other than the space. -/
def IsPrintable (key : String) : Prop :=
  ∀ c ∈ key.toList, 33 ≤ c.toNat ∧ c.toNat ≤ 126

/-- A label is a key and a colon. -/
theorem mem_label {key : String} {c : Char} : c ∈ label key ↔ c ∈ key.toList ∨ c = ':' := by
  rw [label, List.mem_append, List.mem_singleton]

/-- The label of a printable key is printable. -/
theorem IsPrintable.label {key : String} (h : IsPrintable key) :
    ∀ c ∈ Plan.label key, 33 ≤ c.toNat ∧ c.toNat ≤ 126 := by
  intro c hc
  rcases mem_label.1 hc with hc | rfl
  · exact h c hc
  · decide

/-- A printable character of ASCII takes one cell. -/
theorem isNarrow_of_printable {c : Char} (h : 33 ≤ c.toNat ∧ c.toNat ≤ 126) : Console.isNarrow c = true := by
  have hall : (List.range' 33 94).all (fun n => Console.isNarrow (Char.ofNat n)) = true := by decide +kernel
  have hc := List.all_eq_true.1 hall c.toNat (List.mem_range'_1.2 ⟨h.1, Nat.lt_succ_of_le h.2⟩)
  rwa [Char.ofNat_toNat] at hc

/-- It is no blank. -/
theorem isBlank_of_printable {c : Char} (h : 33 ≤ c.toNat ∧ c.toNat ≤ 126) : Text.isBlank c = false := by
  simp only [Text.isBlank, Text.blankRanges, List.any_cons, List.any_nil, Bool.or_false, Bool.or_eq_false_iff,
    Bool.and_eq_false_iff, decide_eq_false_iff_not]
  omega

/-- So the label of a printable key is shown as it is. -/
theorem isLabel_label {key : String} (h : IsPrintable key) : Console.IsLabel (label key) where
  narrow c hc := isNarrow_of_printable (h.label c hc)
  breakFree := .of_not_isBlank fun c hc => isBlank_of_printable (h.label c hc)
  noTab hc := absurd (h.label _ hc).1 (by decide)
  ne_nil := List.append_ne_nil_of_right_ne_nil _ (List.cons_ne_nil _ _)
  last c hc := isBlank_of_printable (h.label c (List.mem_of_getLast? hc))

/-- A key without a bracket or a colon is read as it stands. -/
theorem readMarkup_label {key : String} (h : IsPrintable key) (hbracket : '[' ∉ key.toList)
    (hcolon : ':' ∉ key.toList) : Console.readMarkup (label key) = .ok (.ofText (label key)) := by
  have hcontrols : Console.withoutControls (label key) = label key := by
    refine List.filter_eq_self.2 fun c hc => ?_
    have := h.label c hc
    simp only [Console.isControl, Bool.not_eq_true', Bool.or_eq_false_iff, Bool.and_eq_false_iff,
      beq_eq_false_iff_ne, decide_eq_false_iff_not]
    omega
  have htags : '[' ∉ label key := fun hc => (mem_label.1 hc).elim hbracket (by decide)
  rw [Console.readMarkup_eq htags, label, Console.withPictures_eq_self hcolon, ← label, hcontrols]

/-! ## Panels of documents -/

/-- Where there is room for every label and value, a panel shows the entries that can be shown. -/
theorem exists_shown_of_panel (hs : settings.Presents styles least most)
    (hdocument : p.document settings.tolerance = .ok document) (htitle : p.title = .ok title)
    (hstrings : p.descriptor.configuration.toStrings settings.tolerance = .ok strings)
    (h : p.panel settings console = .ok text)
    (hroom : Console.HasRoom (innerCells least most console title - 4) (entryRows strings)) {key s : String}
    (hentry : (key, s) ∈ strings.entries) (hkey : IsPrintable key)
    (hread : Console.readMarkup (label key) = .ok (.ofText (label key)))
    (hvalue : ∀ m ∈ Console.writtenLines (.ofText (Console.withoutControls s.toList)),
      Console.cells m.text ≤ Console.valueColumn (strings.entries.map (·.2.toList))) :
    ∃ margin shown front rest,
      Console.ShowEntry (innerCells least most console title) margin (label key)
        ((Console.writtenLines (.ofText (Console.withoutControls s.toList))).map Console.Marked.text) shown ∧
      text = front ++ .ofList (framedText shown) ++ rest := by
  have hrow : (⟨label key, s.toList, .ok ()⟩ : Console.GridRow) ∈ entryRows strings :=
    List.mem_map_of_mem hentry
  have hvalues : (entryRows strings).map (·.value) = strings.entries.map (·.2.toList) := List.map_map
  have hgap := hroom _ hrow _ hread
  have hle := innerCells_le least most console title
  have hinner : 4 ≤ innerCells least most console title := by
    rw [Console.gridGap] at hgap
    omega
  obtain ⟨upper, lines, hlines, rfl⟩ :=
    exists_gridLines_of_panel hs hdocument htitle hstrings h rfl (by omega)
  obtain ⟨margin, shown, hshown, hpart⟩ :=
    Console.gridLines_show hlines hroom hrow hread (isLabel_label hkey) (hvalues ▸ hvalue)
  have hshown := hshown.map fun line front v => shows_indentedLine hinner
  have hbody : shown.map (indentedLine (innerCells least most console title)) <:+:
      bodyLines (innerCells least most console title) upper
        (lines.map (indentedLine (innerCells least most console title))) :=
    (hpart.map _).trans ((List.suffix_append ..).isInfix.trans (List.prefix_append ..).isInfix)
  have hframe : innerCells least most console title + 2 ≤ console := by omega
  obtain ⟨front, rest, htext⟩ := exists_printed_framed_eq hframe title hbody hshown.cells_eq
  exact ⟨_, _, front, rest, hshown, htext⟩

/-- **Panels of documents.** A plan that has a document has a panel on every console, unless a label of its
configuration cannot be drawn; none without an opening bracket is such a label. Where there is room for labels,
a panel has only labels whose tags match. Where there is room for every label and value, as there is on every
wide console unless the settings bound the width, it shows each entry under a printable key that is read as it
stands, as a key without a bracket or a colon is, with the value behind the key if that has room in its column. -/
theorem panel_of_document (hs : settings.Presents styles least most)
    (hdocument : p.document settings.tolerance = .ok document) :
    ∃ strings title, p.descriptor.configuration.toStrings settings.tolerance = .ok strings ∧
      p.title = .ok title ∧
      (most = none → ∃ enough, ∀ console, enough ≤ console →
        Console.HasRoom (innerCells least most console title - 4) (entryRows strings)) ∧ ∀ console,
      (∀ f, p.panel settings console = .error f → ∃ key ∈ strings.keys, Console.LabelFails (label key) f) ∧
      ((∀ key ∈ strings.keys, '[' ∉ key.toList) → ∃ text, p.panel settings console = .ok text) ∧
      ∀ text, p.panel settings console = .ok text →
        (Console.gridGap + 4 < innerCells least most console title →
          ∀ key ∈ strings.keys, ∃ m, Console.readMarkup (label key) = .ok m) ∧
        (Console.HasRoom (innerCells least most console title - 4) (entryRows strings) →
          ∀ key s, (key, s) ∈ strings.entries → IsPrintable key →
          ('[' ∉ key.toList ∧ ':' ∉ key.toList) ∨ Console.readMarkup (label key) = .ok (.ofText (label key)) →
          (∀ m ∈ Console.writtenLines (.ofText (Console.withoutControls s.toList)),
            Console.cells m.text ≤ Console.valueColumn (strings.entries.map (·.2.toList))) →
          ∃ margin shown front rest,
            Console.ShowEntry (innerCells least most console title) margin (label key)
              ((Console.writtenLines (.ofText (Console.withoutControls s.toList))).map Console.Marked.text) shown ∧
            text = front ++ .ofList (framedText shown) ++ rest) := by
  obtain ⟨strings, title, -, hstrings, htitle, -, -⟩ := exists_rows hs hdocument
  refine ⟨strings, title, hstrings, htitle, fun hmost => ?room, fun console => ⟨fun f => ?failure,
    fun hplain => ?success, fun text htext => ⟨?labels, fun hroom key s hentry hkey hread hvalue => ?entry⟩⟩⟩
  case room =>
    obtain ⟨enough, henough⟩ := Console.exists_hasRoom (entryRows strings)
    refine ⟨2 * (enough + 4 + 2), fun console hconsole => henough _ ?_⟩
    have := le_innerCells least hconsole title
    rw [hmost]
    omega
  case failure => exact exists_of_panel_eq_error hs hdocument hstrings
  case success =>
    cases hpanel : p.panel settings console with
    | ok text => exact ⟨text, rfl⟩
    | error f =>
      obtain ⟨key, hkey, hfails⟩ := exists_of_panel_eq_error hs hdocument hstrings hpanel
      have hlabel : '[' ∉ label key := fun hc => (mem_label.1 hc).elim (hplain key hkey) (by decide)
      exact absurd hfails (Console.not_labelFails hlabel f)
  case labels => exact exists_readMarkup_of_panel hs hdocument htitle hstrings htext
  case entry =>
    have hread : Console.readMarkup (label key) = .ok (.ofText (label key)) :=
      hread.elim (fun ⟨hbracket, hcolon⟩ => readMarkup_label hkey hbracket hcolon) id
    exact exists_shown_of_panel hs hdocument htitle hstrings htext hroom hentry hkey hread hvalue

end

/-- A new cluster with one entry in its configuration. -/
def ofEntry (key value : String) (h : fits key (.str value) = true) : Plan where
  specification := ⟨1600, 1728, 1⟩
  descriptor :=
    { configuration := ⟨⟨[(key, .str value)], List.nodup_singleton _⟩, List.forall_mem_singleton.2 h⟩
      shipFiles := []
      nodeLabel := none }
  clusterId := none

/-- An entry on a console of the width that has room for it. -/
theorem panel_of_document_of_entry : ∃ text margin shown front rest,
    (ofEntry "a" "1" rfl).panel .standard 160 = .ok text ∧
      Console.ShowEntry 78 margin "a:".toList ["1".toList] shown ∧
      text = front ++ .ofList (framedText shown) ++ rest := by
  obtain ⟨styles, hs⟩ := Settings.exists_presents_standard
  obtain ⟨document, hdocument⟩ :
      ∃ document, (ofEntry "a" "1" rfl).document Settings.standard.tolerance = .ok document :=
    isOk_iff.1 (by decide +kernel)
  obtain ⟨strings, title, hstrings, htitle, -, hpanel⟩ := panel_of_document hs hdocument
  obtain rfl : ⟨[("a", "1")], List.nodup_singleton _⟩ = strings := Except.ok.inj hstrings
  obtain rfl : " CLUSTER: new ".toList = title := Except.ok.inj htitle
  obtain ⟨-, hpresent, hshow⟩ := hpanel 160
  obtain ⟨text, htext⟩ := hpresent (List.forall_mem_singleton.2 (by decide))
  have hread : Console.readMarkup (label "a") = .ok (.ofText (label "a")) :=
    readMarkup_label (by simp [IsPrintable]) (by decide) (by decide)
  obtain ⟨margin, shown, front, rest, hshown, hprinted⟩ := (hshow text htext).2
    (List.forall_mem_singleton.2 fun m hm => by
      obtain rfl := Except.ok.inj (hread.symm.trans hm)
      decide +kernel)
    "a" "1" List.mem_cons_self (by simp [IsPrintable]) (.inr hread)
    (Console.cells_le_valueColumn List.mem_cons_self (.of_any (by decide +kernel)) (by decide +kernel))
  have hinner : innerCells (some 80) none 160 " CLUSTER: new ".toList = 78 := by decide +kernel
  have hwritten : (Console.writtenLines (.ofText (Console.withoutControls "1".toList))).map Console.Marked.text =
      ["1".toList] := by decide +kernel
  have hlabel : label "a" = "a:".toList := by decide +kernel
  rw [hinner, hwritten, hlabel] at hshown
  exact ⟨text, margin, shown, front, rest, htext, hshown, hprinted⟩

/-- The label of a key with a closing tag in it cannot be read, so a plan may have a document and no panel. -/
theorem not_panel_of_closing_tag : ∃ document f,
    (ofEntry "a[/b]" "1" rfl).document Settings.standard.tolerance = .ok document ∧
      (ofEntry "a[/b]" "1" rfl).panel .standard 160 = .error f := by
  obtain ⟨styles, hs⟩ := Settings.exists_presents_standard
  obtain ⟨document, hdocument⟩ :
      ∃ document, (ofEntry "a[/b]" "1" rfl).document Settings.standard.tolerance = .ok document :=
    isOk_iff.1 (by decide +kernel)
  cases hpanel : (ofEntry "a[/b]" "1" rfl).panel .standard 160 with
  | error f => exact ⟨document, f, hdocument, rfl⟩
  | ok text =>
    have hunread : (Console.readMarkup (label "a[/b]")).isOk = false := by decide +kernel
    have htitle : (ofEntry "a[/b]" "1" rfl).title = .ok " CLUSTER: new ".toList := rfl
    have hstrings : (ofEntry "a[/b]" "1" rfl).descriptor.configuration.toStrings Settings.standard.tolerance =
      .ok ⟨[("a[/b]", "1")], List.nodup_singleton _⟩ := rfl
    obtain ⟨m, hm⟩ := exists_readMarkup_of_panel hs hdocument htitle hstrings hpanel (by decide +kernel) _
      List.mem_cons_self
    rw [hm] at hunread
    cases hunread

end Plan

end ClusterPlan
