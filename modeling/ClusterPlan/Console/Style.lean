import ClusterPlan.Failure
import ClusterPlan.Text.Case
import ClusterPlan.Text.Numeral
import ClusterPlan.Text.Pieces

/-!
# Style names

A style is a list of words: attributes of the letters, possibly negated, a colour, a colour of the
background, and a link. Styles with the same effect have one canonical name, in which the attributes
stand in a fixed order. Words that are no style are a name of their own, in small letters. Some styles
are known by a name.
-/

namespace ClusterPlan.Console

/-- The attributes in the order of canonical names. -/
def attributeNames : List String :=
  ["bold", "dim", "italic", "underline", "blink", "blink2", "reverse", "conceal", "strike",
    "underline2", "frame", "encircle", "overline"]

/-- The short forms of attributes. -/
def attributeAliases : List (String × String) :=
  [("d", "dim"), ("b", "bold"), ("i", "italic"), ("u", "underline"), ("r", "reverse"),
    ("c", "conceal"), ("s", "strike"), ("uu", "underline2"), ("o", "overline")]

/-- The attribute that a word names. -/
def attribute? (word : String) : Option String :=
  if attributeNames.contains word then some word else attributeAliases.lookup word

/-- The named colours, with blanks between them. -/
def colourTable : String := "
black red green yellow blue magenta cyan white bright_black bright_red bright_green bright_yellow
bright_blue bright_magenta bright_cyan bright_white grey0 gray0 navy_blue dark_blue blue3 blue1
dark_green deep_sky_blue4 dodger_blue3 dodger_blue2 green4 spring_green4 turquoise4 deep_sky_blue3
dodger_blue1 green3 spring_green3 dark_cyan light_sea_green deep_sky_blue2 deep_sky_blue1
spring_green2 cyan3 dark_turquoise turquoise2 green1 spring_green1 medium_spring_green cyan2 cyan1
dark_red deep_pink4 purple4 purple3 blue_violet orange4 grey37 gray37 medium_purple4 slate_blue3
royal_blue1 chartreuse4 dark_sea_green4 pale_turquoise4 steel_blue steel_blue3 cornflower_blue
chartreuse3 cadet_blue sky_blue3 steel_blue1 pale_green3 sea_green3 aquamarine3 medium_turquoise
chartreuse2 sea_green2 sea_green1 aquamarine1 dark_slate_gray2 dark_magenta dark_violet purple
light_pink4 plum4 medium_purple3 slate_blue1 yellow4 wheat4 grey53 gray53 light_slate_grey
light_slate_gray medium_purple light_slate_blue dark_olive_green3 dark_sea_green light_sky_blue3
sky_blue2 dark_sea_green3 dark_slate_gray3 sky_blue1 chartreuse1 light_green pale_green1
dark_slate_gray1 red3 medium_violet_red magenta3 dark_orange3 indian_red hot_pink3 medium_orchid3
medium_orchid medium_purple2 dark_goldenrod light_salmon3 rosy_brown grey63 gray63 medium_purple1
gold3 dark_khaki navajo_white3 grey69 gray69 light_steel_blue3 light_steel_blue yellow3
dark_sea_green2 light_cyan3 light_sky_blue1 green_yellow dark_olive_green2 dark_sea_green1
pale_turquoise1 deep_pink3 magenta2 hot_pink2 orchid medium_orchid1 orange3 light_pink3 pink3
plum3 violet light_goldenrod3 tan misty_rose3 thistle3 plum2 khaki3 light_goldenrod2 light_yellow3
grey84 gray84 light_steel_blue1 yellow2 dark_olive_green1 honeydew2 light_cyan1 red1 deep_pink2
deep_pink1 magenta1 orange_red1 indian_red1 hot_pink dark_orange salmon1 light_coral
pale_violet_red1 orchid2 orchid1 orange1 sandy_brown light_salmon1 light_pink1 pink1 plum1 gold1
navajo_white1 misty_rose1 thistle1 yellow1 light_goldenrod1 khaki1 wheat1 cornsilk1 grey100
gray100 grey3 gray3 grey7 gray7 grey11 gray11 grey15 gray15 grey19 gray19 grey23 gray23 grey27
gray27 grey30 gray30 grey35 gray35 grey39 gray39 grey42 gray42 grey46 gray46 grey50 gray50 grey54
gray54 grey58 gray58 grey62 gray62 grey66 gray66 grey70 gray70 grey74 gray74 grey78 gray78 grey82
gray82 grey85 gray85 grey89 gray89 grey93 gray93
"

/-- The named colours. -/
def colourNames : List String :=
  (Text.words colourTable.toList).map String.ofList

/-- A digit of a colour code in small letters. -/
def isHexDigit (c : Char) : Bool :=
  ('0' ≤ c && c ≤ '9') || ('a' ≤ c && c ≤ 'f')

/-- The text between an opening word with a bracket and the closing bracket. -/
def between? (opening : String) (cs : List Char) : Option (List Char) :=
  if opening.toList.isPrefixOf cs && cs.getLast? == some ')' then
    some ((cs.drop opening.length).dropLast)
  else
    none

/-- Why a word is no colour. -/
inductive ColourFault where
  | unknown (word : String)
  | paletteRange (word : String)
  | componentCount (word : String)
  | componentRange (word : String)
deriving DecidableEq, Repr

def ColourFault.message : ColourFault → String
  | .unknown word => s!"{Text.quoted word} is not a valid color"
  | .paletteRange word => s!"color number must be <= 255 in {Text.quoted word}"
  | .componentCount word => s!"expected three components in {Text.quoted word}"
  | .componentRange word => s!"color components must be <= 255 in {Text.quoted word}"

/-- Why a text is no style. -/
inductive StyleFault where
  | noBackground
  | badBackground (word : String) (fault : ColourFault)
  | noAttribute (word : String)
  | noLink
  | badColour (word : String) (fault : ColourFault)
deriving DecidableEq, Repr

def StyleFault.message : StyleFault → String
  | .noBackground => "color expected after 'on'"
  | .badBackground word fault =>
    s!"unable to parse {Text.quoted word} as background color; {fault.message}"
  | .noAttribute word => s!"expected style attribute after 'not', found {Text.quoted word}"
  | .noLink => "URL expected after 'link'"
  | .badColour word fault => s!"unable to parse {Text.quoted word} as color; {fault.message}"

/-- What reading a style or a part of one gives: a numeral that cannot be read is a failure of its own,
apart from the faults of styles. -/
abbrev StyleReading (ε α : Type) := ExceptT ε (Except Failure) α

/-- The value of a colour component. -/
def component (cs : List Char) : Except Failure Int :=
  match Text.readInt cs with
  | .number i => .ok i
  | .tooLong digits => .error (.numeralTooLong digits)
  | .malformed => .error (.badNumeral 10 (.ofList cs))

/-- Checks three colour components. -/
def checkComponents (word : String) (cs : List Char) : StyleReading ColourFault Unit := do
  match Text.pieces ',' cs with
  | [red, green, blue] =>
    let red ← component red
    let green ← component green
    let blue ← component blue
    unless red ≤ 255 && green ≤ 255 && blue ≤ 255 do
      throw (.componentRange word)
  | _ => throw (.componentCount word)

/-- Checks that a word is a colour: a name, a colour code, a number of the palette or three components.
The colour is known by the word in small letters. -/
def colour (word : String) : StyleReading ColourFault String := do
  let cs := Text.lower word.toList
  let small := String.ofList cs
  if small == "default" || colourNames.contains small then
    return small
  match cs with
  | '#' :: code =>
    unless code.length == 6 && code.all isHexDigit do
      throw (.unknown word)
  | _ =>
    match between? "color(" cs, between? "rgb(" cs with
    | some digits, _ =>
      unless 1 ≤ digits.length && digits.length ≤ 3 && digits.all Char.isDigit do
        throw (.unknown word)
      unless Text.ofDigits digits ≤ 255 do
        throw (.paletteRange small)
    | _, some components =>
      if components.isEmpty || !components.all (fun c => Text.isDigit c || c == ',') then
        throw (.unknown word)
      checkComponents word components
    | none, none => throw (.unknown word)
  return small

/-- What a style says. -/
structure Style where
  attributes : List (String × Bool) := []
  colour : Option String := none
  background : Option String := none
  link : Option String := none

namespace Style

/-- Reads a colour as part of a style. -/
def readColour (fault : ColourFault → StyleFault) (word : String) :
    StyleReading StyleFault String :=
  (Console.colour word).adapt fault

/-- The style with one more attribute, set or unset. -/
def withAttribute (style : Style) (name : String) (value : Bool) : Style :=
  { style with attributes := (name, value) :: style.attributes }

/-- Reads the words of a style behind those that have been read. -/
def ofWords (style : Style) : List String → StyleReading StyleFault Style
  | [] => return style
  | word :: rest =>
    let small := String.ofList (Text.lower word.toList)
    match small, rest with
    | "on", [] => throw .noBackground
    | "on", word :: rest => do
      let background ← readColour (.badBackground word) word
      ofWords { style with background := some background } rest
    | "not", [] => throw (.noAttribute "")
    | "not", word :: rest =>
      match attribute? word with
      | some a => ofWords (style.withAttribute a false) rest
      | none => throw (.noAttribute word)
    | "link", [] => throw .noLink
    | "link", word :: rest => ofWords { style with link := some word } rest
    | small, rest =>
      match attribute? small with
      | some a => ofWords (style.withAttribute a true) rest
      | none => do
        let colour ← readColour (.badColour small) small
        ofWords { style with colour := some colour } rest

/-- Reads a style. The word `none` is the style that says nothing. -/
def parse (text : List Char) : StyleReading StyleFault Style :=
  if Text.trim text == "none".toList then return {}
  else ofWords {} ((Text.words text).map String.ofList)

/-- The words of the canonical name of a style. -/
def words (style : Style) : List String :=
  attributeNames.filterMap (fun a =>
      (style.attributes.lookup a).map fun set => if set then a else "not " ++ a)
    ++ style.colour.toList
    ++ (style.background.map ("on " ++ ·)).toList
    ++ (style.link.map ("link " ++ ·)).toList

end Style

/-- The canonical name of a style. -/
def styleName (name : List Char) : Except Failure String := do
  match ← (Style.parse name).run with
  | .ok style => return if style.words.isEmpty then "none" else " ".intercalate style.words
  | .error _ => return .ofList (Text.lower (Text.trim name))

/-- The styles that are known by a name, with blanks between them. -/
def styleTable : String := "
reset bright strong code emphasize inspect.attr inspect.attr.dunder inspect.callable
inspect.async_def inspect.def inspect.class inspect.error inspect.equals inspect.help inspect.doc
inspect.value.border live.ellipsis layout.tree.row layout.tree.column logging.keyword
logging.level.notset logging.level.debug logging.level.info logging.level.warning
logging.level.error logging.level.critical log.level log.time log.message log.path repr.ellipsis
repr.indent repr.error repr.str repr.brace repr.comma repr.ipv4 repr.ipv6 repr.eui48 repr.eui64
repr.tag_start repr.tag_name repr.tag_contents repr.tag_end repr.attrib_name repr.attrib_equal
repr.attrib_value repr.number repr.number_complex repr.bool_true repr.bool_false repr.none repr.url
repr.uuid repr.call repr.path repr.filename rule.line rule.text json.brace json.bool_true
json.bool_false json.null json.number json.str json.key prompt prompt.choices prompt.default
prompt.invalid prompt.invalid.choice pretty scope.border scope.key scope.key.special scope.equals
table.header table.footer table.cell table.title table.caption traceback.error
traceback.border.syntax_error traceback.border traceback.text traceback.title traceback.exc_type
traceback.exc_value traceback.offset bar.back bar.complete bar.finished bar.pulse
progress.description progress.filesize progress.filesize.total progress.download progress.elapsed
progress.percentage progress.remaining progress.data.speed progress.spinner status.spinner tree
tree.line markdown.paragraph markdown.text markdown.em markdown.emph markdown.strong markdown.code
markdown.code_block markdown.block_quote markdown.list markdown.item markdown.item.bullet
markdown.item.number markdown.hr markdown.h1.border markdown.h1 markdown.h2 markdown.h3 markdown.h4
markdown.h5 markdown.h6 markdown.h7 markdown.link markdown.link_url markdown.s iso8601.date
iso8601.time iso8601.timezone traceback.error_range traceback.note traceback.group.border
markdown.table.border markdown.table.header
"

/-- The styles that are known by a name. -/
def namedStyles : List String :=
  (Text.words styleTable.toList).map String.ofList

/-- Checks that a text is a style or the name of one. -/
def checkStyle (text : String) : Except Failure Unit := do
  unless namedStyles.contains text do
    match ← (Style.parse text.toList).run with
    | .ok _ => return
    | .error fault => throw (.missingStyle text fault.message)

/-- Checks a style whose faults are of no consequence. -/
def checkStyleLeniently (text : List Char) : Except Failure Unit := do
  discard (Style.parse text).run

end ClusterPlan.Console
