import ClusterPlan.Plan.Panel
import ClusterPlan.Proofs.Panel
import ClusterPlan.Proofs.Rejection

/-!
# Settings of panels

Under the standard settings every style of a panel can be looked up (`Settings.exists_presents_standard`). Under
settings with such styles, whose bounds are whole numbers or missing, a frame takes a number of cells that is
known beforehand (`Plan.innerCells`), and a panel fails at nothing but what it shows (`Plan.panel_eq`).
-/

namespace ClusterPlan

/-! ## Styles -/

namespace Console

set_option maxRecDepth 100000 in
/-- The colours of the standard settings have a name. -/
theorem mem_colourNames : "white" ∈ colourNames ∧ "grey50" ∈ colourNames := by
  obtain ⟨cs, htable, hwords⟩ : ∃ cs, colourTable = .ofList cs ∧
      (["white".toList, "grey50".toList].all fun w => (Text.words cs).contains w) = true :=
    ⟨_, rfl, by decide +kernel⟩
  simp only [List.all_cons, List.all_nil, Bool.and_true, Bool.and_eq_true, List.contains_iff_mem] at hwords
  rw [colourNames, htable, String.toList_ofList]
  exact ⟨List.mem_map.2 ⟨_, hwords.1, String.ofList_toList⟩, List.mem_map.2 ⟨_, hwords.2, String.ofList_toList⟩⟩

/-- A colour by its name is a colour. -/
theorem colour_eq {word : String} (hlower : Text.lower word.toList = word.toList)
    (hword : word = "default" ∨ word ∈ colourNames) : colour word = pure word := by
  rw [colour, hlower, String.ofList_toList, if_pos]
  simpa using hword

section
variable {style : Style} {word : String} {rest : List String}

/-- A word that stands alone in a style is an attribute or a colour. -/
theorem Style.ofWords_cons (hlower : Text.lower word.toList = word.toList)
    (hother : word ∉ ["on", "not", "link"]) : ofWords style (word :: rest) =
    (attribute? word).elim
      (readColour (.badColour word) word >>= fun colour => ofWords { style with colour := some colour } rest)
      fun a => ofWords (style.withAttribute a true) rest := by
  simp only [List.mem_cons, List.not_mem_nil, or_false, not_or] at hother
  rw [ofWords.eq_def style (word :: rest)]
  simp only [hlower, String.ofList_toList]
  split
  · exact absurd rfl hother.1
  · exact absurd rfl hother.1
  · exact absurd rfl hother.2.1
  · exact absurd rfl hother.2.1
  · exact absurd rfl hother.2.2
  · exact absurd rfl hother.2.2
  · cases attribute? word <;> rfl

/-- The word of an attribute switches it on. -/
theorem Style.ofWords_attribute {a : String} (hlower : Text.lower word.toList = word.toList)
    (hother : word ∉ ["on", "not", "link"]) (hattribute : attribute? word = some a) :
    ofWords style (word :: rest) = ofWords (style.withAttribute a true) rest := by
  rw [ofWords_cons hlower hother, hattribute, Option.elim_some]

/-- The word of a colour sets it. -/
theorem Style.ofWords_colour (hlower : Text.lower word.toList = word.toList)
    (hother : word ∉ ["on", "not", "link"]) (hattribute : attribute? word = none)
    (hword : word = "default" ∨ word ∈ colourNames) :
    ofWords style (word :: rest) = ofWords { style with colour := some word } rest := by
  rw [ofWords_cons hlower hother, hattribute, Option.elim_none, readColour, colour_eq hlower hword]
  rfl

end

/-- A style of a named colour, be it bold or not, can be looked up. -/
theorem checkStyle_colour (text word : String) (htrim : Text.trim text.toList ≠ "none".toList)
    (hwords : Text.words text.toList = [word.toList] ∨ Text.words text.toList = [word.toList, "bold".toList])
    (hlower : Text.lower word.toList = word.toList) (hattribute : attribute? word = none)
    (hother : word ∉ ["on", "not", "link"]) (hword : word = "default" ∨ word ∈ colourNames) :
    checkStyle text = .ok () ∧ checkStyleLeniently text.toList = .ok () := by
  have hbold : attribute? "bold" = some "bold" := by decide +kernel
  obtain ⟨style, hstyle⟩ : ∃ style, Style.parse text.toList = pure style := by
    rw [Style.parse, if_neg (by simpa using htrim)]
    rcases hwords with hwords | hwords
    · rw [hwords, List.map_singleton, String.ofList_toList,
        Style.ofWords_colour hlower hother hattribute hword]
      exact ⟨_, rfl⟩
    · rw [hwords, List.map_cons, List.map_singleton, String.ofList_toList, String.ofList_toList,
        Style.ofWords_colour hlower hother hattribute hword,
        Style.ofWords_attribute (by decide +kernel) (by decide +kernel) hbold]
      exact ⟨_, rfl⟩
  constructor
  · rw [checkStyle, hstyle]
    split <;> rfl
  · rw [checkStyleLeniently, hstyle]
    rfl

end Console

namespace Plan

/-- A style that is given as a text is looked up. -/
theorem checkPresentStyle_str {name : String} (h : Console.checkStyle name = .ok ()) :
    checkPresentStyle (.str name) = .ok () := by
  unfold checkPresentStyle
  split
  · exact h
  · rfl

/-- A style of letters is looked up leniently. -/
theorem checkLetterStyle_str {name : String} (h : Console.checkStyleLeniently name.toList = .ok ()) :
    checkLetterStyle (.str name) = .ok () := by
  unfold checkLetterStyle
  split
  · exact h
  · rfl

end Plan

/-! ## Settings -/

namespace Settings

/-- A bound of the width of a panel, which may be missing. -/
def bound : Option Int → Value
  | none => .null
  | some i => .int i

/-- The settings have styles that can be looked up, and bounds that are whole numbers or missing. -/
structure Presents (settings : Settings) (styles : Plan.PanelStyles) (least most : Option Int) : Prop where
  styles_eq : Plan.PanelStyles.ofSettings settings = .ok styles
  least_eq : settings.get .minWidth = .ok (bound least)
  most_eq : settings.get .maxWidth = .ok (bound most)
  border : Plan.checkStyle styles.border = .ok ()
  title : Plan.checkPresentStyle styles.title = .ok ()
  heading : Plan.checkLetterStyle styles.title = .ok ()
  rule : Plan.checkLetterStyle styles.rule = .ok ()
  key : Plan.checkPresentStyle styles.key = .ok ()
  value : Plan.checkLetterStyle styles.value = .ok ()
  notes : Plan.checkLetterStyle styles.notes = .ok ()

/-- The standard settings are such. -/
theorem exists_presents_standard : ∃ styles, standard.Presents styles (some 80) none := by
  obtain ⟨hwhite, hgrey⟩ := Console.mem_colourNames
  have white := Console.checkStyle_colour "white" "white" (by decide +kernel)
    (.inl (by decide +kernel)) (by decide +kernel) (by decide +kernel) (by decide +kernel) (.inr hwhite)
  have bold := Console.checkStyle_colour "white bold" "white" (by decide +kernel)
    (.inr (by decide +kernel)) (by decide +kernel) (by decide +kernel) (by decide +kernel) (.inr hwhite)
  have default := Console.checkStyle_colour "default bold" "default" (by decide +kernel)
    (.inr (by decide +kernel)) (by decide +kernel) (by decide +kernel) (by decide +kernel) (.inl rfl)
  have grey := Console.checkStyle_colour "grey50" "grey50" (by decide +kernel)
    (.inl (by decide +kernel)) (by decide +kernel) (by decide +kernel) (by decide +kernel) (.inr hgrey)
  exact ⟨{
      border := .str "white", title := .str "white bold", rule := .str "white"
      key := .str "default bold", value := .str "white", notes := .str "grey50" }, {
    styles_eq := rfl
    least_eq := rfl
    most_eq := rfl
    border := white.1
    title := Plan.checkPresentStyle_str bold.1
    heading := Plan.checkLetterStyle_str bold.2
    rule := Plan.checkLetterStyle_str white.2
    key := Plan.checkPresentStyle_str default.1
    value := Plan.checkLetterStyle_str white.2
    notes := Plan.checkLetterStyle_str grey.2 }⟩

end Settings

/-! ## Frames -/

namespace Plan

/-- The width that the settings ask for, in cells. -/
def askedWidth (least most : Option Int) (console : Nat) : Int :=
  let part := (console : Int).fdiv panelFactor
  let raised := least.elim part (max part)
  most.elim raised (min raised)

/-- The cells inside the frame of a panel. -/
def innerCells (least most : Option Int) (console : Nat) (title : List Char) : Nat :=
  (min (console : Int) (max (min console (askedWidth least most console)) (Console.cells title + 4)) - 2).toNat

/-- The frame leaves room for its edges. -/
theorem innerCells_le (least most : Option Int) (console : Nat) (title : List Char) :
    innerCells least most console title ≤ console - 2 := by
  unfold innerCells
  omega

/-- Without an upper bound there is a console on which the frame is as wide as one likes. -/
theorem le_innerCells (least : Option Int) {room console : Nat} (h : 2 * (room + 2) ≤ console)
    (title : List Char) : room ≤ innerCells least none console title := by
  have hpart : (room : Int) + 2 ≤ askedWidth least none console := by
    have hhalf : (room : Int) + 2 ≤ (console : Int).fdiv panelFactor := by
      rw [panelFactor, Int.fdiv_eq_ediv_of_nonneg _ (by decide)]
      omega
    cases least with
    | none => exact hhalf
    | some i => exact Int.le_trans hhalf (Int.le_max_left ..)
  unfold innerCells
  omega

/-- The width of a panel is a part of that of the console, within the bounds. -/
theorem panelWidth_eq (console : Nat) (least most : Option Int) :
    panelWidth console panelFactor (Settings.bound least) (Settings.bound most) =
      .ok (.int (askedWidth least most console)) := by
  rw [panelWidth, if_neg (by decide)]
  cases least with
  | none =>
    cases most with
    | none => rfl
    | some j => exact Value.lesser_int ..
  | some i =>
    simp only [Settings.bound, Value.greater_int]
    cases most with
    | none => rfl
    | some j => exact Value.lesser_int ..

/-- A frame takes the width that is asked for within that of the console, and at least what its title needs.
-/
theorem frameWidth_eq (console : Int) (title : List Char) (width : Int) :
    frameWidth console title (.int width) = .ok (.int (max (min console width) (Console.cells title + 4))) := by
  rw [frameWidth, Value.lesser_int]
  exact Value.greater_int ..

section
variable {p : Plan} {settings : Settings} {styles : PanelStyles} {least most : Option Int} {console : Nat}
  {specification configuration : List Console.GridRow} {title : List Char}

/-- A console without cells has nothing on it. -/
theorem panel_zero (hs : settings.Presents styles least most)
    (hspecification : p.specificationRows settings.tolerance styles = .ok specification)
    (hconfiguration : p.configurationRows settings.tolerance styles = .ok configuration)
    (htitle : p.title = .ok title) : p.panel settings 0 = .ok "" := by
  unfold panel
  simp only [hs.styles_eq, hs.least_eq, hs.most_eq, hspecification, hconfiguration, htitle, ok_bind,
    panelWidth_eq]
  rfl

/-- **Panels.** A panel fails at nothing but what it shows, and is a frame of known width. -/
theorem panel_eq (hs : settings.Presents styles least most) (hconsole : console ≠ 0)
    (hspecification : p.specificationRows settings.tolerance styles = .ok specification)
    (hconfiguration : p.configurationRows settings.tolerance styles = .ok configuration)
    (htitle : p.title = .ok title) :
    p.panel settings console = (do
      let body ← panelBody (innerCells least most console title) styles specification configuration
      return Console.printed console
        (.blank 0 :: Console.framed (innerCells least most console title) title body ++ [.blank 0])) := by
  have hinner : (min (console : Int) (max (min console (askedWidth least most console))
      (Console.cells title + 4)) - 2).toNat = innerCells least most console title := rfl
  unfold panel
  simp only [hs.styles_eq, hs.least_eq, hs.most_eq, hspecification, hconfiguration, htitle, ok_bind,
    panelWidth_eq, if_neg hconsole, hs.border, frameWidth_eq, Value.asInt?, pure_bind, hinner, hs.title, ite_self]

end

end Plan

end ClusterPlan
