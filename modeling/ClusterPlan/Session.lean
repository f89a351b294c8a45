import ClusterPlan.ApplicationId
import ClusterPlan.Configuration
import ClusterPlan.Environment
import ClusterPlan.Text.Pieces

/-!
# Session records

A session cluster leaves a properties file that names it. The file consists of assignments, one a line;
only the application ID, the address of the job manager and the dynamic properties count. `parse` reads
such a file and `toConfiguration` says what a record sets.
-/

namespace ClusterPlan

/-- What is known about a session cluster. -/
structure SessionRecord where
  clusterId : ApplicationId
  address : Option String
  port : Option Int
  /-- The configuration overrides that the session was started with. -/
  dynamic : Ordered String

namespace SessionRecord

/-- The assignment that one line makes: comments and blank lines make none, and a line without an
equals sign assigns the empty text. -/
def lineAssignment? (line : List Char) : Option (String × String) :=
  match Text.trim line with
  | [] => none
  | '#' :: _ => none
  | '!' :: _ => none
  | cs =>
    match Text.assignment? (.ofList cs) with
    | some pair => some pair
    | none => some (.ofList (Text.trim (cs.reverse.dropWhile (· = '=')).reverse), "")

/-- The assignments of a properties file, the last one of a key winning. -/
def properties (content : String) : Ordered String :=
  .ofList ((Text.lines content.toList).filterMap lineAssignment?)

/-- Looks up the property whose name is a value of the settings. -/
def property? (properties : Ordered String) (name : Value) : Except Failure (Option String) :=
  match name, name.unhashable? with
  | .str s, _ => .ok (properties.get? s)
  | _, some kind => .error (.wrongType s!"unhashable type: '{kind}'")
  | _, none => .ok none

/-- The pieces of a text between separators; without a separator they are the words. -/
def splitBy (separator : Value) (s : String) : Except Failure (List String) :=
  match separator with
  | .str "" => .error .emptySeparator
  | .str sep =>
    let cs := s.toList
    .ok ((Text.piecesBetween sep.toList (cs.length + 1) [] cs).map .ofList)
  | .null => .ok ((Text.words s.toList).map .ofList)
  | v => .error (.wrongType s!"must be str or None, not {v.kindName}")

/-- The text before the last colon and the text after it. -/
def cutAtLastColon (cs : List Char) : Option (List Char × List Char) :=
  match cs.reverse.dropWhile (· != ':') with
  | [] => none
  | _ :: host => some (host.reverse, (cs.reverse.takeWhile (· != ':')).reverse)

/-- Reads an address, a host and a port with a colon between them. -/
def parseAddress (source raw : String) : Except Failure (String × Int) :=
  match cutAtLastColon (Text.trim raw.toList) with
  | none => .error (.sessionAddress source raw)
  | some (host, port) =>
    if host.isEmpty || port.isEmpty || !port.all Text.isDigit then
      .error (.sessionAddress source raw)
    else do
      return (.ofList host, ← readDigits port)

/-- Reads the dynamic properties; blank pieces between separators do not count. -/
def parseDynamic (source : String) (pieces : List String) : Except Failure (Ordered String) := do
  let pairs ← (pieces.filter fun p => !Text.isBlankText p).mapM fun p =>
    match Text.assignment? p with
    | some pair => Except.ok pair
    | none => .error (.sessionProperty source p)
  return .ofList pairs

/-- Texts as values. -/
def asValues (m : Ordered String) : Ordered Value :=
  m.map fun _ s => .str s

/-- The dynamic properties of a record must be convertible; a failure that the user can mend is one of
the file. -/
def checkDynamic (tolerance : Tolerance) (source : String) (dynamic : Ordered String) :
    Except Failure Unit :=
  match Configuration.ofValues tolerance (asValues dynamic) with
  | .ok _ => .ok ()
  | .error f => .error (if f.isExpected then .sessionPropertyValue source f else f)

/-- Reads the application ID of a session. -/
def parseId (source raw : String) : Except Failure ApplicationId :=
  match ApplicationId.parse raw with
  | .ok id => .ok id
  | .error f => .error (if f.isExpected then .sessionId source raw else f)

/-- The application ID that the properties name. -/
def readId (settings : Settings) (source content : String) (properties : Ordered String) :
    Except Failure ApplicationId := do
  let key ← settings.get .applicationIdKey
  match ← property? properties key with
  | none => throw (.sessionWithoutId source (← key.text settings.tolerance) (Text.strip content))
  | some raw => parseId source raw

/-- The address of the job manager, if the properties have one. -/
def readAddress (settings : Settings) (source : String) (properties : Ordered String) :
    Except Failure (Option (String × Int)) := do
  match ← property? properties (← settings.get .jobManagerKey) with
  | none => return none
  | some raw => return some (← parseAddress source raw)

/-- The pieces of the dynamic properties; no text and the empty text have none. -/
def dynamicPieces (settings : Settings) : Option String → Except Failure (List String)
  | none | some "" => .ok []
  | some raw => do splitBy (← settings.get .dynamicPropertiesSeparator) raw

/-- The dynamic properties, each of which must be convertible. -/
def readDynamic (settings : Settings) (source : String) (properties : Ordered String) :
    Except Failure (Ordered String) := do
  let raw ← property? properties (← settings.get .dynamicPropertiesKey)
  let dynamic ← parseDynamic source (← dynamicPieces settings raw)
  checkDynamic settings.tolerance source dynamic
  return dynamic

/-- Reads a session properties file; `source` names it in messages. -/
def parse (settings : Settings) (source content : String) : Except Failure SessionRecord := do
  let properties := properties content
  let clusterId ← readId settings source content properties
  let address ← readAddress settings source properties
  let dynamic ← readDynamic settings source properties
  return ⟨clusterId, address.map Prod.fst, address.map Prod.snd, dynamic⟩

/-- The name of the session properties file of a user. -/
def fileName (settings : Settings) (user : String) : Except Failure String := do
  let start ← (← settings.getBy "propertiesFile" .propertiesPrefix).text settings.tolerance
  return "." ++ start ++ "-properties-" ++ user

/-- Loads the record of a user from a directory, if there is one. -/
def load (env : Environment) (directory : Path) (user : String) :
    Except Failure (Option SessionRecord) := do
  let file := directory.join (.ofString (← fileName env.settings user))
  if !(← env.files.isFile env.directory file) then
    return none
  let unreadable (reason : String) : Failure := .sessionUnreadable file.text reason
  let bytes ← match env.files.read env.directory file with
    | .ok bytes => pure bytes
    | .error f => throw (unreadable f.message)
  let text ← match Text.decodeUtf8 bytes with
    | .ok text => pure text
    | .error fault => throw (unreadable fault.message)
  some <$> parse env.settings file.text (.ofList (Text.unifyLineEnds text))

/-- What a record sets: its dynamic properties, then the application ID and the address of the job
manager, which prevail. -/
def toConfiguration (tolerance : Tolerance) (r : SessionRecord) : Except Failure Configuration := do
  let c ← Configuration.ofValues tolerance (asValues r.dynamic)
  let c ← c.set tolerance ConfigOption.applicationId.key (.str (← r.clusterId.text))
  let c ← match r.address with
    | some host => c.set tolerance ConfigOption.masterAddress.key (.str host)
    | none => pure c
  match r.port with
  | some port => c.set tolerance ConfigOption.masterPort.key (.int port)
  | none => pure c

end SessionRecord

end ClusterPlan
