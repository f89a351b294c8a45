import ClusterPlan.Environment
import ClusterPlan.Text.Printable

/-!
# The console and the log

The environment can say how many cells a line of the console has and how many lines there are. What is
no row of digits is not looked at; but a row of digits has to be a number, and there are digits, raised
ones for instance, of which no number can be made. The log goes to the console, with the details only in debug
mode, which an environment variable turns on by its mere presence.
-/

namespace ClusterPlan.Console

/-- The digits that are no decimal digits, as ranges of code points in increasing order. -/
def otherDigitRanges : Array (Nat × Nat) := #[
  (178, 179), (185, 185), (4969, 4977), (6618, 6618), (8304, 8304), (8308, 8313), (8320, 8329),
  (9312, 9320), (9332, 9340), (9352, 9360), (9450, 9450), (9461, 9469), (9471, 9471),
  (10102, 10110), (10112, 10120), (10122, 10130), (68160, 68163), (69216, 69224), (69714, 69722),
  (127232, 127242)]

/-- A digit, be it decimal or not. -/
def isAnyDigit (c : Char) : Bool :=
  Text.isDigit c
    || Text.inRanges otherDigitRanges c.toNat otherDigitRanges.size 0 otherDigitRanges.size

/-- A number that the environment says, if it says one. -/
def dimension? (env : Environment) (name : String) : Except Failure (Option Nat) :=
  match env.lookup? name with
  | none => .ok none
  | some text =>
    if text == "" || !text.toList.all isAnyDigit then .ok none
    else
      match Text.readInt text.toList with
      | .number i => .ok (some i.toNat)
      | .tooLong digits => .error (.numeralTooLong digits)
      | .malformed => .error (.badNumeral 10 text)

/-- The cells of a console line if the environment does not say. -/
def standardWidth : Nat := 80

/-- The cells of a console line. The number of lines does not matter, but it is read. -/
def width (env : Environment) : Except Failure Nat := do
  let columns ← dimension? env "COLUMNS"
  discard (dimension? env "LINES")
  return columns.getD standardWidth

end ClusterPlan.Console

namespace ClusterPlan

/-! ## Loggers -/

/-- How much is logged. -/
inductive LogLevel where
  | debug
  | info
deriving DecidableEq, Repr

def LogLevel.name : LogLevel → String
  | .debug => "DEBUG"
  | .info => "INFO"

/-- The level of messages that are logged. -/
def logLevel (env : Environment) : Except Failure LogLevel := do
  let value ← Environment.variableNamed? env (← env.settings.get .debugMode)
  return if value.isSome then .debug else .info

/-- A logger: its level and that of each of its handlers, and whether it passes messages on. -/
structure Logger where
  level : LogLevel
  handlers : List LogLevel
  propagates : Bool
deriving DecidableEq, Repr

/-- Prepares a logger; a handler, which writes to the console, is added only to a logger that has none. -/
def Logger.prepare (env : Environment) (handlers : List LogLevel) : Except Failure Logger := do
  let level ← logLevel env
  if handlers.isEmpty then
    discard (Console.width env)
    discard (env.settings.get .standardDate)
    return ⟨level, [level], false⟩
  return ⟨level, handlers, false⟩

end ClusterPlan
