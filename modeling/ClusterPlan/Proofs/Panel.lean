import ClusterPlan.Plan.Panel
import ClusterPlan.Proofs.ApplicationId
import ClusterPlan.Proofs.Cells
import ClusterPlan.Proofs.Document

/-!
# Plans as panels

The upper edge of a frame is a line of narrow characters, with the title in it as it stands if there is room for
it. Under the standard settings a frame is never narrower than its title unless the console is, so a panel names
the application to attach to wherever the console has room for it (`Plan.exists_panel_eq`). Panel and document
name it by the text of the application, however its ID has been spelled (`Plan.shows_of_parse`).
-/

namespace ClusterPlan

namespace Console

/-! ## Frames -/

theorem isNarrow_bar {n : Nat} {c : Char} (h : c ∈ bar n) : isNarrow c = true := by
  rw [List.eq_of_mem_replicate h]
  decide +kernel

/-- The upper edge of a frame that has room for a narrow title. -/
theorem upperEdge_eq {width : Nat} {title : List Char} (h : ∀ c ∈ title, isNarrow c = true)
    (hw : title.length + 2 ≤ width) (hne : title ≠ []) : ∃ m n, m + title.length + n = width - 2 ∧
    upperEdge width title = '╭' :: '─' :: bar m ++ title ++ bar n ++ ['─', '╮'] := by
  have hlength : 0 < title.length := List.length_pos_iff.2 hne
  have hcells := cells_eq_length h
  refine ⟨(width - 2 - title.length) / 2,
    width - 2 - title.length - (width - 2 - title.length) / 2, by omega, ?_⟩
  rw [upperEdge, if_neg (by omega), centred, hcells, if_neg (by omega), hcells]
  simp

/-- A frame that has room for a narrow title shows it, and is two cells wider than what it is drawn around. -/
theorem exists_upperEdge_eq {width : Nat} {title : List Char} (h : ∀ c ∈ title, isNarrow c = true)
    (hw : title.length + 2 ≤ width) (hne : title ≠ []) :
    (∃ front rest, upperEdge width title = front ++ title ++ rest) ∧
      cells (upperEdge width title) = width + 2 := by
  obtain ⟨m, n, hlength, hedge⟩ := upperEdge_eq h hw hne
  have hcorner : ['╭', '─', '╮'].all isNarrow = true := by decide +kernel
  replace hcorner := List.all_eq_true.1 hcorner
  have hnarrow : ∀ c ∈ upperEdge width title, isNarrow c = true := by
    rw [hedge]
    simp only [List.cons_append, List.mem_cons, List.mem_append]
    rintro c (rfl | rfl | ((hc | hc) | hc) | (rfl | rfl | ⟨⟨⟩⟩))
    · exact hcorner _ (by simp)
    · exact hcorner _ (by simp)
    · exact isNarrow_bar hc
    · exact h c hc
    · exact isNarrow_bar hc
    · exact hcorner _ (by simp)
    · exact hcorner _ (by simp)
  constructor
  · exact ⟨'╭' :: '─' :: bar m, bar n ++ ['─', '╮'], by rw [hedge]; simp⟩
  · rw [cells_eq_length hnarrow, hedge]
    simp only [bar, List.length_append, List.length_cons, List.length_replicate, List.length_nil]
    omega

/-- A line that has room on the console is printed as it is. -/
theorem exists_printed_eq {width : Nat} {l : List Line} {line : Line} (h : line ∈ l)
    (hw : line.cells ≤ width) :
    ∃ front rest, printed width l = front ++ .ofList line.text ++ rest := by
  obtain ⟨before, after, rfl⟩ := List.append_of_mem h
  let shown (line : Line) : List Char := (line.crop width).text ++ ['\n']
  refine ⟨.ofList (before.flatMap shown), .ofList ('\n' :: after.flatMap shown), ?_⟩
  refine String.toList_inj.1 ?_
  simp [printed, shown, Line.crop_eq_self hw]

end Console

/-! ## The width of a frame -/

namespace Value

theorem greater_int (i j : Int) : greater (.int i) (.int j) = .ok (.int (max i j)) := by
  show Except.ok (if decide (i < j) then Value.int j else .int i) = _
  by_cases h : i < j
  · rw [if_pos (decide_eq_true h), Int.max_eq_right (Int.le_of_lt h)]
  · rw [if_neg (by simpa using h), Int.max_eq_left (Int.not_lt.1 h)]

theorem lesser_int (i j : Int) : lesser (.int i) (.int j) = .ok (.int (min i j)) := by
  show Except.ok (if decide (j < i) then Value.int j else .int i) = _
  by_cases h : j < i
  · rw [if_pos (decide_eq_true h), Int.min_eq_right (Int.le_of_lt h)]
  · rw [if_neg (by simpa using h), Int.min_eq_left (Int.not_lt.1 h)]

end Value

namespace Plan

/-- Under the standard settings a frame has a width that leaves room for its title. -/
theorem exists_frameWidth_eq {console : Int} {title : List Char} {width frame : Value}
    (hwidth : panelWidth console panelFactor (.int 80) .null = .ok width)
    (hframe : frameWidth console title width = .ok frame) :
    ∃ w : Int, frame = .int w ∧ Console.cells title + 4 ≤ w := by
  have h : panelWidth console panelFactor (.int 80) .null =
      .ok (.int (max (console.fdiv panelFactor) 80)) := by
    rw [panelWidth, if_neg (by decide)]
    simp only [Value.greater_int]
    rfl
  obtain rfl := Except.ok.inj (h.symm.trans hwidth)
  rw [frameWidth, Value.lesser_int] at hframe
  obtain rfl := Except.ok.inj ((Value.greater_int ..).symm.trans hframe)
  exact ⟨_, rfl, Int.le_max_right ..⟩

/-- A panel under the standard settings, on a console with room for its title, is a frame that has room for it
too. -/
theorem exists_framed_of_panel {p : Plan} {console : Nat} {title : List Char} {text : String}
    (h : p.panel .standard console = .ok text) (htitle : p.title = .ok title)
    (hroom : Console.cells title + 4 ≤ console) :
    ∃ inner body, Console.cells title + 2 ≤ inner ∧ inner + 2 ≤ console ∧
      text = Console.printed console (.blank 0 :: Console.framed inner title body ++ [.blank 0]) := by
  obtain ⟨styles, -, h⟩ := bind_eq_ok.1 h
  obtain ⟨specification, -, h⟩ := bind_eq_ok.1 h
  obtain ⟨configuration, -, h⟩ := bind_eq_ok.1 h
  obtain ⟨title', htitle', h⟩ := bind_eq_ok.1 h
  obtain rfl := Except.ok.inj (htitle.symm.trans htitle')
  obtain ⟨least, hleast, h⟩ := bind_eq_ok.1 h
  obtain ⟨most, hmost, h⟩ := bind_eq_ok.1 h
  obtain ⟨width, hwidth, h⟩ := bind_eq_ok.1 h
  rw [if_neg (by omega)] at h
  obtain ⟨⟨⟩, -, h⟩ := bind_eq_ok.1 h
  obtain ⟨frame, hframe, h⟩ := bind_eq_ok.1 h
  have hleast' : Settings.get .standard .minWidth = .ok (.int 80) := rfl
  have hmost' : Settings.get .standard .maxWidth = .ok .null := rfl
  obtain rfl := Except.ok.inj (hleast'.symm.trans hleast)
  obtain rfl := Except.ok.inj (hmost'.symm.trans hmost)
  obtain ⟨w, rfl, hw⟩ := exists_frameWidth_eq hwidth hframe
  simp only [Value.asInt?] at h
  obtain ⟨inner, hinner, h⟩ := bind_eq_ok.1 h
  have hinner : (min (console : Int) w - 2).toNat = inner := Except.ok.inj hinner
  obtain ⟨body, -, h⟩ := bind_eq_ok.1 h
  refine ⟨inner, body, by omega, by omega, ?_⟩
  split at h
  · obtain ⟨⟨⟩, -, h⟩ := bind_eq_ok.1 h
    exact (Except.ok.inj h).symm
  · exact (Except.ok.inj h).symm

/-- The panel of a plan names the application to attach to in its title, where the console has room for it. -/
theorem exists_panel_eq {p : Plan} {id : List Char} {console : Nat} {text : String}
    (hid : p.clusterText = .ok (some (.ofList id))) (hnarrow : ∀ c ∈ id, Console.isNarrow c = true)
    (h : p.panel .standard console = .ok text) (hroom : id.length + 15 ≤ console) :
    ∃ front rest, text = front ++ " CLUSTER: " ++ .ofList id ++ " " ++ rest := by
  let title := " CLUSTER: ".toList ++ id ++ [' ']
  have htitle : p.title = .ok title := by
    rw [Plan.title, hid]
    show Except.ok (" CLUSTER: ".toList ++ (String.ofList id).toList ++ [' ']) = .ok title
    rw [String.toList_ofList (l := id)]
  have hnarrow : ∀ c ∈ title, Console.isNarrow c = true := by
    have hwords : " CLUSTER: ".toList.all Console.isNarrow = true := by decide +kernel
    replace hwords := List.all_eq_true.1 hwords
    simp only [title, List.mem_append, List.mem_singleton]
    rintro c ((hc | hc) | rfl)
    · exact hwords c hc
    · exact hnarrow c hc
    · exact hwords ' ' (by decide)
  have hlength : title.length = id.length + 11 := by
    simp only [title, List.length_append, List.length_singleton]
    have : " CLUSTER: ".toList.length = 10 := rfl
    omega
  have hcells := Console.cells_eq_length hnarrow
  obtain ⟨inner, body, hinner, hconsole, rfl⟩ := exists_framed_of_panel h htitle (by omega)
  obtain ⟨⟨front, rest, hedge⟩, hwidth⟩ :=
    Console.exists_upperEdge_eq hnarrow (hcells ▸ hinner) (by simp [title])
  have hline : Console.Line.cells (.ofText (Console.upperEdge inner title)) ≤ console := by
    show Console.cells (Console.upperEdge inner title) + 0 ≤ console
    omega
  obtain ⟨above, below, hprinted⟩ := Console.exists_printed_eq
    (l := .blank 0 :: Console.framed inner title body ++ [.blank 0]) (by simp [Console.framed]) hline
  refine ⟨above ++ .ofList front, .ofList rest ++ below, hprinted.trans ?_⟩
  show above ++ .ofList [Console.upperEdge inner title].flatten ++ below = _
  rw [hedge]
  apply String.toList_inj.1
  simp [title]

end Plan

/-- The text of an application ID takes one cell a character. -/
theorem ApplicationId.isNarrow_of_mem_characters {timestamp sequence : Nat} {c : Char}
    (h : c ∈ characters timestamp sequence) : Console.isNarrow c = true := by
  have halphabet : alphabet.all Console.isNarrow = true := by decide +kernel
  exact List.all_eq_true.1 halphabet c (mem_alphabet h)

/-- A text is the one under which a plan names the application to attach to, in both of its forms. -/
structure Plan.Shows (p : Plan) (id : String) : Prop where
  clusterText : p.clusterText = .ok (some id)
  document : ∀ tolerance text, p.document tolerance = .ok text →
    ∃ rest, text = "cluster_id: " ++ id ++ "\n" ++ rest
  /-- The panel names it where the console has room for it. -/
  panel : ∀ console text, p.panel .standard console = .ok text → id.length + 15 ≤ console →
    ∃ front rest, text = front ++ " CLUSTER: " ++ id ++ " " ++ rest

/-- A plan names an application that has been read under the text of the application. -/
theorem Plan.shows_of_parse {p : Plan} {s id : String} {a : ApplicationId}
    (ha : ApplicationId.parse s = .ok a) (hid : a.text = .ok id) (hp : p.clusterId = some a) :
    p.Shows id := by
  have htext : p.clusterText = .ok (some id) := by
    rw [clusterText, hp]
    show some <$> a.text = .ok (some id)
    rw [hid]
    rfl
  obtain ⟨timestamp, sequence, rfl⟩ := ApplicationId.exists_characters ha hid
  refine ⟨htext, fun tolerance text h => ?_, fun console text h hroom => ?_⟩
  · exact exists_document_eq htext (Yaml.isWord_characters timestamp sequence) h
  · rw [String.length_ofList] at hroom
    exact exists_panel_eq htext (fun _ => ApplicationId.isNarrow_of_mem_characters) h hroom

end ClusterPlan
