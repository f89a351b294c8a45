import ClusterPlan.Text.Bytes
import ClusterPlan.Text.Numeral

/-!
# Failures

Everything that can go wrong, one constructor per cause, with the wording in `Failure.message`.
A failure that a user can mend by changing an input is `expected`; the others are reported as
unexpected. Reading and writing whole numbers is where the digit limit makes a failure.
-/

namespace ClusterPlan

/-- What is wrong with the value of a command-line option. -/
inductive Misuse where
  | blank (text : String)
  | noList (text : String)
  | noInteger (text : String)
  | tooFew (text : String)
  | noAssignment (item : String)
deriving DecidableEq, Repr

def Misuse.message : Misuse → String
  | .blank text => s!"expected a non-empty string, got '{text}'."
  | .noList text => s!"expected a list of values, got '{text}'."
  | .noInteger text => s!"expected an integer, got '{text}'."
  | .tooFew text => s!"must be at least 1, got '{text}'."
  | .noAssignment item => s!"expected 'key=value', got '{item}'."

/-- Why a file cannot be reached. -/
inductive FileFault where
  | missing
  | notDirectory
  | isDirectory
  | nameTooLong
  | linkLoop
  | permission
deriving DecidableEq, Repr

def FileFault.message : FileFault → String
  | .missing => "[Errno 2] No such file or directory"
  | .notDirectory => "[Errno 20] Not a directory"
  | .isDirectory => "[Errno 21] Is a directory"
  | .nameTooLong => "[Errno 36] File name too long"
  | .linkLoop => "[Errno 40] Too many levels of symbolic links"
  | .permission => "[Errno 13] Permission denied"

/-- The path leads to nothing; the other faults say that this cannot be known. -/
def FileFault.isAbsence : FileFault → Bool
  | .missing | .notDirectory | .linkLoop => true
  | .isDirectory | .nameTooLong | .permission => false

/-- A cause of failure. -/
inductive Failure where
  -- memory sizes
  | memoryText (text : String)
  | memoryUnit (unit text : String)
  | memoryNotPositive (text : String)
  | memoryOption (flag : String) (cause : Failure)
  -- durations and application IDs
  | durationText (text : String)
  | durationUnit (unit text : String)
  | durationDays (days : Int)
  | durationRange
  | applicationId (text : String)
  -- values of configuration options
  | valueMissing (key : String)
  | notInteger (key text : String)
  | notBoolean (key text : String)
  | notList (key text : String)
  /-- A stored value is not of the type of its option. -/
  | mistyped (key : String)
  -- the command line
  | unknownMode (text : String)
  | misuse (flag : String) (reason : Misuse)
  | rejectedOption (flag : String) (cause : Failure)
  | shipFile (path : String)
  -- configuration files
  | configurationUnreadable (file reason : String)
  | configurationSyntax (file : String)
  | configurationShape (file : String)
  -- session properties files
  | sessionUnreadable (file reason : String)
  | sessionWithoutId (source key content : String)
  | sessionId (source raw : String)
  | sessionAddress (source raw : String)
  | sessionProperty (source item : String)
  | sessionPropertyValue (source : String) (cause : Failure)
  -- the settings of the tool
  | settingsUnreadable (file : String)
  -- limits of numbers
  | numeralTooLong (digits : Nat)
  | numberTooLong
  | ratioTooLarge
  | divisionByZero
  /-- A number is too large for a floating-point number. -/
  | integerTooLarge
  -- values that other parts refuse
  | keyMissing (key : String)
  | badNumeral (base : Nat) (text : String)
  | badFloat (text : String)
  | emptyNumeral
  | badDate (reason : String)
  | endlessNesting
  | emptySeparator
  | notUtf8 (fault : Text.Utf8Fault)
  | fileFault (fault : FileFault) (path : String)
  | embeddedNull
  /-- There is no home directory for the user or the account. -/
  | homeless
  /-- The current directory has been removed. -/
  | noDirectory
  /-- In none of the directories that were tried temporary files can be kept. -/
  | noTemporaryDirectory (tried : List String)
  | closingTag (tag : String) (position : Nat)
  | nothingToClose (position : Nat)
  /-- The parameters of a handler are no expression. -/
  | handlerSyntax (expression parameters reason : String)
  /-- The parameters of a handler are an expression without a value. -/
  | handlerValue (parameters reason : String)
  | missingStyle (name reason : String)
  -- settings of a wrong type
  | noAttribute (type name : String)
  | notComparable (operator left right : String)
  | wrongType (message : String)
deriving DecidableEq, Repr

/-- The families a failure is reported under. -/
inductive Family where
  | general
  | memory
  | session
  | option (flag : String)
  | shipFile (path : String)
  | unexpected
deriving DecidableEq, Repr

namespace Failure

def family : Failure → Family
  | memoryText _ | memoryUnit .. | memoryNotPositive _ | memoryOption .. => .memory
  | durationText _ | durationUnit .. | applicationId _ | valueMissing _ | notInteger ..
  | notBoolean .. | notList .. | unknownMode _ | configurationUnreadable .. | configurationSyntax _
  | configurationShape _ => .general
  | misuse flag _ | rejectedOption flag _ => .option flag
  | shipFile path => .shipFile path
  | sessionUnreadable .. | sessionWithoutId .. | sessionId .. | sessionAddress ..
  | sessionProperty .. | sessionPropertyValue .. => .session
  | mistyped _ | durationDays _ | durationRange | settingsUnreadable _ | numeralTooLong _ | numberTooLong
  | ratioTooLarge | divisionByZero | integerTooLarge | keyMissing _ | badNumeral .. | badFloat _ | emptyNumeral
  | badDate _ | endlessNesting | emptySeparator
  | notUtf8 _ | fileFault .. | embeddedNull | homeless | noDirectory | noTemporaryDirectory _
  | closingTag .. | nothingToClose _ | handlerSyntax .. | handlerValue .. | missingStyle .. | noAttribute ..
  | notComparable .. | wrongType _ => .unexpected

/-- A failure that a user can mend. -/
def isExpected (f : Failure) : Bool :=
  f.family != .unexpected

/-- The wording of a failure. -/
def message : Failure → String
  | memoryText text => s!"Invalid memory size: '{text}'."
  | memoryUnit unit text => s!"Unsupported unit '{unit}' in memory size '{text}'."
  | memoryNotPositive text => s!"Memory size must be positive: '{text}'."
  | memoryOption flag cause => s!"{cause.message} (option '{flag}')"
  | durationText text => s!"Invalid duration: '{text}'."
  | durationUnit unit text => s!"Unsupported unit '{unit}' in duration '{text}'."
  | durationDays days => s!"days={days}; must have magnitude <= 999999999"
  | durationRange => "Python int too large to convert to C int"
  | applicationId text => s!"Invalid application ID: '{text}'."
  | valueMissing key => s!"Option '{key}' requires a value."
  | notInteger key text => s!"Option '{key}' expects an integer, got '{text}'."
  | notBoolean key text => s!"Option '{key}' expects 'true' or 'false', got '{text}'."
  | notList key text => s!"Cannot convert '{text}' to list for option '{key}'."
  | mistyped _ => ""
  | unknownMode text => s!"Could not recognize a mode '{text}'."
  | misuse flag reason => s!"Invalid value for option '{flag}': {reason.message}"
  | rejectedOption flag cause => s!"Invalid value for option '{flag}': {cause.message}"
  | shipFile path => s!"Ship file '{path}' does not exist."
  | configurationUnreadable file reason =>
    s!"Could not read the configuration file '{file}': {reason}."
  | configurationSyntax file => s!"Could not parse the configuration file '{file}'"
  | configurationShape file => s!"Configuration file '{file}' does not contain a mapping."
  | sessionUnreadable file reason =>
    s!"Could not read the session properties file '{file}': {reason}."
  | sessionWithoutId source key content =>
    s!"Session properties file '{source}' does not contain '{key}'. Content: '{content}'."
  | sessionId source raw =>
    s!"Session properties file '{source}' contains an invalid application ID: '{raw}'."
  | sessionAddress source raw =>
    s!"Session properties file '{source}' contains an invalid job manager address: '{raw}'. "
      ++ "Expected 'host:port'."
  | sessionProperty source item =>
    s!"Session properties file '{source}' contains an invalid dynamic property: '{item}'."
  | sessionPropertyValue source cause =>
    s!"Session properties file '{source}' contains an invalid dynamic property: {cause.message}"
  | settingsUnreadable file => s!"Could not read ys config '{file}'"
  | numeralTooLong digits =>
    s!"Exceeds the limit (4300 digits) for integer string conversion: value has {digits} digits; "
      ++ "use sys.set_int_max_str_digits() to increase the limit"
  | numberTooLong =>
    "Exceeds the limit (4300 digits) for integer string conversion; "
      ++ "use sys.set_int_max_str_digits() to increase the limit"
  | ratioTooLarge => "integer division result too large for a float"
  | divisionByZero => "integer division or modulo by zero"
  | integerTooLarge => "int too large to convert to float"
  | keyMissing key => Text.quoted key
  | badNumeral base text =>
    s!"invalid literal for int() with base {base}: {String.ofList ((Text.quoted text).toList.take 200)}"
  | badFloat text => s!"could not convert string to float: {Text.quoted text}"
  | emptyNumeral => "string index out of range"
  | badDate reason => reason
  | endlessNesting => "maximum recursion depth exceeded in comparison"
  | emptySeparator => "empty separator"
  | notUtf8 fault => fault.message
  | fileFault fault path => s!"{fault.message}: {Text.quoted path}"
  | embeddedNull => "embedded null byte"
  | homeless => "Could not determine home directory."
  | noDirectory => FileFault.missing.message
  | noTemporaryDirectory tried =>
    "[Errno 2] No usable temporary directory found in [" ++ ", ".intercalate (tried.map Text.quoted) ++ "]"
  | closingTag tag position =>
    s!"closing tag '{tag}' at position {position} doesn't match any open tag"
  | nothingToClose position => s!"closing tag '[/]' at position {position} has nothing to close"
  | handlerSyntax expression parameters reason =>
    s!"error parsing {Text.quoted expression} in {Text.quoted parameters}; {reason}"
  | handlerValue parameters reason => s!"error parsing {Text.quoted parameters}; {reason}"
  | missingStyle name reason => s!"Failed to get style {Text.quoted name}; {reason}"
  | noAttribute type name => s!"'{type}' object has no attribute '{name}'"
  | notComparable operator left right =>
    s!"'{operator}' not supported between instances of '{left}' and '{right}'"
  | wrongType message => message

end Failure

/-! ## Numbers within the digit limit -/

/-- A sequence of two computations succeeds when both do. -/
theorem bind_eq_ok {ε α β : Type} {x : Except ε α} {f : α → Except ε β} {b : β} :
    x >>= f = .ok b ↔ ∃ a, x = .ok a ∧ f a = .ok b := by
  cases x <;> simp [bind, Except.bind]

/-- The number that a run of digits denotes, if the run is not too long. -/
def readDigits (ds : List Char) : Except Failure Nat :=
  if ds.length ≤ Text.digitLimit then .ok (Text.ofDigits ds) else .error (.numeralTooLong ds.length)

/-- The decimal text of a number, if it is not too long. -/
def writeInt (i : Int) : Except Failure String :=
  if Text.isWritable i then .ok (toString i) else .error .numberTooLong

/-- The decimal text padded with zeros behind the sign to at least `width` characters. -/
def writePadded (width : Nat) (i : Int) : Except Failure String :=
  if Text.isWritable i then
    .ok (if i < 0 then "-" ++ Text.padded (width - 1) i.natAbs else Text.padded width i.natAbs)
  else
    .error .numberTooLong

end ClusterPlan
