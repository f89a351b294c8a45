import ClusterPlan.BaseConfiguration
import ClusterPlan.CommandLine.Command
import ClusterPlan.Logging
import ClusterPlan.Pass
import ClusterPlan.Plan.Panel
import ClusterPlan.SettingsFile

/-!
# The program

A run of the program from its arguments to its outcome. A resolution either succeeds and prints a whole
plan, or prints nothing and logs the failure of the first stage that fails: as an error if a user can
mend it, as critical otherwise. The session that took part in a resolution is logged even if the plan
cannot be shown.
-/

namespace ClusterPlan

open CommandLine

/-- A message of a run. -/
inductive LogEntry where
  | info (message : String)
  | error (failure : Failure)
  | critical (failure : Failure)
deriving DecidableEq, Repr

/-- What a run leaves behind. -/
structure Outcome where
  exitCode : Int
  output : String
  log : List LogEntry
  /-- What is wrong with the arguments. -/
  complaint : Option UsageError
deriving DecidableEq, Repr

namespace Outcome

/-- A run that prints a text. -/
def success (output : String) (log : List LogEntry) : Outcome := ⟨0, output, log, none⟩

/-- A run that fails. -/
def failure (exitCode : Int) (log : List LogEntry) : Outcome := ⟨exitCode, "", log, none⟩

/-- A run whose arguments are wrong. -/
def misused (complaint : UsageError) : Outcome := ⟨2, "", [], some complaint⟩

end Outcome

/-- The program in its surroundings. -/
structure Program where
  environment : Environment
  /-- The exit code for failures that a user can mend, as it was when the program started. -/
  failureCode : Value

namespace Program

/-- The version of the program. -/
def version : String := "0.1.0"

/-- Starts the program with the settings in force. Its loggers are prepared, temporary files have a
directory, and settings that every run needs must be there. `handlers` are those that the loggers have
already, as they do when the program is loaded again. -/
def startWith (handlers : List LogLevel) (env : Environment) : Except Failure Program := do
  let settings ← Settings.load env
  let env := { env with settings }
  let failureCode ← settings.get .defaultExit
  discard (Logger.prepare env handlers)
  discard env.temporaryPath
  discard (settings.get .baseConfig)
  discard (settings.get .confDir)
  return ⟨env, failureCode⟩

/-- Starts the program, whose loggers have no handlers yet. -/
def start (env : Environment) : Except Failure Program :=
  startWith [] env

/-- The outcome of a run that ends with a value of the settings: a number is the exit code, the missing
value stands for success, and anything else is printed. -/
def exit (tolerance : Tolerance) (code : Value) (log : List LogEntry) : Except Failure Outcome :=
  match code, code.asInt? with
  | .null, _ => .ok (.success "" log)
  | _, some number => .ok (.failure number log)
  | code, none => do
    return { Outcome.failure 1 log with output := (← code.text tolerance) ++ "\n" }

/-- What a resolution makes: the final configuration and the session record that took part. -/
structure Resolved where
  configuration : Configuration
  session : Option SessionRecord

/-- The resolution that is asked for. -/
def resolveRequest (env : Environment) (r : Request) : Except Failure Resolved := do
  let base ← loadBase env (r.confDir.map Path.ofString)
  let pass ← Pass.prepare env base (r.propertiesDir.map Path.ofString) none
  let configuration ← pass.toConfiguration env r.options r.mode
  let used ← pass.usesSession env r.options
  return ⟨configuration, if used then pass.session else none⟩

/-- The message about the session record that took part. -/
def sessionEntries (session : Option SessionRecord) : Except Failure (List LogEntry) :=
  match session with
  | none => .ok []
  | some record => do
    let id ← record.clusterId.text
    return [.info s!"Found session '{id}'."]

/-- The plan of a configuration in the form that is asked for. -/
def planText (env : Environment) (r : Request) (c : Configuration) : Except Failure String := do
  let plan ← Plan.ofConfiguration env c
  if r.asDocument then
    plan.document env.tolerance
  else
    plan.panel env.settings (← Console.width env)

/-- The outcome of a failure after some messages. If the settings do not say how to end, the run breaks
off. -/
def fail (p : Program) (log : List LogEntry) (f : Failure) : Except Failure Outcome :=
  let settings := p.environment.settings
  if f.isExpected then
    exit settings.tolerance p.failureCode (log ++ [.error f])
  else
    match settings.get .unexpectedExit with
    | .ok code => exit settings.tolerance code (log ++ [.critical f])
    | .error _ => .ok (.failure 1 (log ++ [.critical f]))

/-- A resolution with its messages. -/
def resolveLogged (env : Environment) (r : Request) :
    Except Failure (Configuration × List LogEntry) := do
  let resolved ← resolveRequest env r
  return (resolved.configuration, ← sessionEntries resolved.session)

/-- Carries out a resolution and prints the plan. -/
def resolve (p : Program) (r : Request) : Except Failure Outcome :=
  match resolveLogged p.environment r with
  | .error f => p.fail [] f
  | .ok (c, log) =>
    match planText p.environment r c with
    | .error f => p.fail log f
    | .ok output => .ok (.success output log)

/-- Carries out a command. -/
def carryOut (p : Program) : Command → Except Failure Outcome
  | .help => .ok (.success Command.helpText [])
  | .version => .ok (.success (version ++ "\n") [])
  | .resolveHelp => .ok (.success Command.resolveHelpText [])
  | .resolve r => p.resolve r

/-- A run with some arguments. -/
def run (p : Program) (arguments : List String) : Except Failure Outcome :=
  match Command.parse arguments with
  | .error complaint => .ok (.misused complaint)
  | .ok command => p.carryOut command

end Program

end ClusterPlan
