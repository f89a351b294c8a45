import ClusterPlan.Console.Line
import ClusterPlan.Console.Grid
import ClusterPlan.Plan.Document

/-!
# Plans as panels

A plan on a console: a frame with the cluster in its title, around a grid of what the cluster is made
of and a grid of its configuration. The width of the frame is half that of the console within the
bounds of the settings, and never more than the console has. Styles are not shown, but they are looked up
in the order in which the parts of the panel are drawn.
-/

namespace ClusterPlan

namespace Value

/-- Whether a number is less than another one; other values have no order. -/
def less? : Value → Value → Option Bool
  | float x, float y => some (x.compare? y == some .lt)
  | float x, w => w.asInt?.map fun j => x.compareInt? j == some .lt
  | v, float y => v.asInt?.map fun i => y.compareInt? i == some .gt
  | v, w => do return (← v.asInt?) < (← w.asInt?)

/-- The greater of two numbers, the first one if they are equal. -/
def greater (v w : Value) : Except Failure Value :=
  match less? v w with
  | some b => .ok (if b then w else v)
  | none => .error (.notComparable ">" w.kindName v.kindName)

/-- The lesser of two numbers, the first one if they are equal. -/
def lesser (v w : Value) : Except Failure Value :=
  match less? w v with
  | some b => .ok (if b then w else v)
  | none => .error (.notComparable "<" w.kindName v.kindName)

end Value

/-- The width of a panel: a part of the console's width within bounds, of which the upper one counts
last. A missing value is no bound. -/
def panelWidth (console factor : Int) (least most : Value) : Except Failure Value := do
  if factor = 0 then
    throw .divisionByZero
  let width : Value := .int (console.fdiv factor)
  let width ← match least with
    | .null => pure width
    | least => width.greater least
  match most with
  | .null => return width
  | most => width.lesser most

namespace Plan

/-- The part of the console's width that a panel takes. -/
def panelFactor : Int := 2

/-- The label of a key as markup. -/
def label (key : String) : List Char :=
  key.toList ++ [':']

/-- The styles of a panel, as the settings give them. -/
structure PanelStyles where
  border : Value
  title : Value
  rule : Value
  key : Value
  value : Value
  notes : Value

/-- The styles of the settings. -/
def PanelStyles.ofSettings (settings : Settings) : Except Failure PanelStyles := do
  return {
    key := ← settings.get .keyStyle
    value := ← settings.get .valueStyle
    notes := ← settings.get .notesStyle
    title := ← settings.get .titleStyle
    rule := ← settings.get .ruleStyle
    border := ← settings.get .borderStyle }

/-- Looks up a style that is not a text. -/
def checkOtherStyle (v : Value) : Console.StyleCheck :=
  match v.unhashable? with
  | some kind => .error (.wrongType s!"unhashable type: '{kind}'")
  | none => .error (.noAttribute v.kindName "strip")

/-- Looks up a style, which has to be one. -/
def checkStyle : Value → Console.StyleCheck
  | .str name => Console.checkStyle name
  | v => checkOtherStyle v

/-- Looks up a style unless it is missing. -/
def checkPresentStyle (v : Value) : Console.StyleCheck := do
  if v.truthy then
    checkStyle v

/-- Looks up a style of letters, which may be a name that no style has. -/
def checkLetterStyle (v : Value) : Console.StyleCheck := do
  if v.truthy then
    match v with
    | .str name => Console.checkStyleLeniently name.toList
    | v => checkOtherStyle v

/-- What the cluster is made of. -/
def specificationRows (tolerance : Tolerance) (styles : PanelStyles) (p : Plan) :
    Except Failure (List Console.GridRow) := do
  let row (key value : String) : Console.GridRow :=
    ⟨label key, value.toList, checkLetterStyle styles.value⟩
  let target ← ((p.descriptor.configuration.value? .target).getD .null).text tolerance
  let master ← writeInt p.specification.masterMegabytes
  let worker ← writeInt p.specification.workerMegabytes
  let slots ← writeInt p.specification.slots
  let node := (p.descriptor.nodeLabel.filter (· != "")).map (row "Node label")
  let files := if p.descriptor.shipFiles.isEmpty then
      { row "Ship files" "none" with style := checkLetterStyle styles.notes }
    else row "Ship files" ("\n".intercalate (p.descriptor.shipFiles.map Path.text))
  return [row "Target" target, row "Job manager memory" (master ++ " MB"),
      row "Task manager memory" (worker ++ " MB"), row "Slots per task manager" slots]
    ++ node.toList ++ [files]

/-- The configuration. -/
def configurationRows (tolerance : Tolerance) (styles : PanelStyles) (p : Plan) :
    Except Failure (List Console.GridRow) := do
  let strings ← p.descriptor.configuration.toStrings tolerance
  return strings.entries.map fun (k, s) => ⟨label k, s.toList, checkLetterStyle styles.value⟩

/-- The title of the panel. -/
def title (p : Plan) : Except Failure (List Char) := do
  return " CLUSTER: ".toList ++ ((← p.clusterText).getD "new").toList ++ [' ']

/-- A grid with a margin of two cells on either side. -/
def indentedGrid (width : Nat) (styles : PanelStyles) (rows : List Console.GridRow) :
    Except Failure (List Console.Line) := do
  return (← Console.gridLines (width - 4) (checkPresentStyle styles.key) rows).map fun line =>
    ((.blank 2 ++ line ++ .blank 2 : Console.Line).fit width).fit width

/-- The lines inside the frame; a frame without room has none. -/
def panelBody (width : Nat) (styles : PanelStyles)
    (specification configuration : List Console.GridRow) : Except Failure (List Console.Line) := do
  if width = 0 then
    return []
  let blank := Console.Line.blank width
  let upper ← indentedGrid width styles specification
  checkLetterStyle styles.rule
  if 4 < width then
    checkLetterStyle styles.title
  let rule := Console.Line.ofText (Console.headingRule width "CONFIGURATION".toList)
  let lower ← indentedGrid width styles configuration
  return blank :: upper ++ [blank, rule, blank] ++ lower ++ [blank]

/-- What fails first when a frame whose width is no whole number is filled: the row of the first value,
whose style has been looked up only if every value has room. -/
def fillFraction (width : Value) (styles : PanelStyles) (rows : List Console.GridRow) :
    Except Failure Unit := do
  let labels := (rows.map fun r => Console.widestLine r.label).foldl max 0 + Console.gridGap
  let values := (rows.map fun r => Console.widestLine r.value).foldl max 1
  let first := (rows.head?.map fun r => Console.cells r.value).getD 0
  let holds (n : Nat) : Bool := Value.less? width (.int (n + 6)) == some false
  checkPresentStyle styles.key
  if holds (labels + values) then
    checkLetterStyle styles.value
  else if holds (labels + 1) && !holds (labels + first) then
    throw (.wrongType "slice indices must be integers or None or have an __index__ method")
  throw (.wrongType "can't multiply sequence by non-int of type 'float'")

/-- The width of the frame on a console of `console` cells: not less than its title needs and not more
than there are. -/
def frameWidth (console : Int) (title : List Char) (width : Value) : Except Failure Value := do
  (← Value.lesser (.int console) width).greater (.int (Console.cells title + 4))

/-- The plan as a panel on a console of `console` cells. -/
def panel (settings : Settings) (console : Nat) (p : Plan) : Except Failure String := do
  let styles ← PanelStyles.ofSettings settings
  let specification ← p.specificationRows settings.tolerance styles
  let configuration ← p.configurationRows settings.tolerance styles
  let title ← p.title
  let width ← panelWidth console panelFactor (← settings.get .minWidth) (← settings.get .maxWidth)
  if console = 0 then
    return ""
  checkStyle styles.border
  let width ← frameWidth console title width
  let inner ← match width.asInt? with
    | some width => pure (min (console : Int) width - 2).toNat
    | none => do
      fillFraction width styles specification
      pure 0
  let body ← panelBody inner styles specification configuration
  if 2 < inner then
    checkPresentStyle styles.title
  return Console.printed console (.blank 0 :: Console.framed inner title body ++ [.blank 0])

end Plan

end ClusterPlan
