import ClusterPlan.Text.Pieces

/-!
# Arguments

The arguments of a program are options and other words. An option is spelled with one or two dashes. A
spelling of one dash and one character is short, and short ones can be written together; the value of an
option is the rest of a short cluster, what follows an equals sign behind a long spelling, or the next
argument. Two dashes on their own end the options.
-/

namespace ClusterPlan.CommandLine

/-- An option that a program knows. -/
structure Flag where
  name : String
  /-- The ways to write it, with their dashes. -/
  spellings : List String
  takesValue : Bool
  help : String
deriving DecidableEq, Repr

/-- What can be wrong with arguments. -/
inductive UsageError where
  | unknownOption (spelling : String)
  | missingValue (spelling : String)
  | unwantedValue (spelling : String)
  | badChoice (spelling value : String)
  | unknownCommand (name : String)
  | extraArgument (text : String)
deriving DecidableEq, Repr

def UsageError.message : UsageError → String
  | unknownOption spelling => s!"No such option: {spelling}"
  | missingValue spelling => s!"Option '{spelling}' requires an argument."
  | unwantedValue spelling => s!"Option '{spelling}' does not take a value."
  | badChoice spelling value => s!"Invalid value for '{spelling}': '{value}'."
  | unknownCommand name => s!"No such command '{name}'."
  | extraArgument text => s!"Got unexpected extra argument ({text})"

/-- An option as it was given, with its value. -/
structure Given where
  name : String
  value : Option String
deriving DecidableEq, Repr

/-- Options read off one argument, and the option among them that takes its value from the next one. -/
structure Cluster where
  given : List Given
  waiting : Option Flag

/-- The option with a short spelling. -/
def shortFlag? (flags : List Flag) (c : Char) : Option Flag :=
  flags.find? fun f => f.spellings.contains (.ofList ['-', c])

/-- A spelling that is not short. -/
def isLong (spelling : String) : Bool :=
  spelling.length ≠ 2

/-- The option with a long spelling. -/
def longFlag? (flags : List Flag) (spelling : String) : Option Flag :=
  flags.find? fun f => isLong spelling && f.spellings.contains spelling

/-- Reads short options written together. -/
def readCluster (flags : List Flag) : List Char → Except UsageError Cluster
  | [] => .ok ⟨[], none⟩
  | c :: cs =>
    match shortFlag? flags c with
    | none => .error (.unknownOption (.ofList ['-', c]))
    | some f =>
      if f.takesValue then
        .ok (if cs.isEmpty then ⟨[], some f⟩ else ⟨[⟨f.name, some (.ofList cs)⟩], none⟩)
      else do
        let rest ← readCluster flags cs
        return { rest with given := ⟨f.name, none⟩ :: rest.given }

/-- Reads an argument that begins with a dash. A long spelling is tried first, whatever the number of
its dashes. -/
def readOption (flags : List Flag) (argument : String) : Except UsageError Cluster :=
  let (spelling, value) := match Text.cutAtEquals argument.toList with
    | none => (argument, none)
    | some (spelling, value) => (String.ofList spelling, some (String.ofList value))
  match longFlag? flags spelling, value with
  | some f, some value =>
    if f.takesValue then .ok ⟨[⟨f.name, some value⟩], none⟩ else .error (.unwantedValue spelling)
  | some f, none => .ok (if f.takesValue then ⟨[], some f⟩ else ⟨[⟨f.name, none⟩], none⟩)
  | none, _ =>
    if argument.startsWith "--" then .error (.unknownOption spelling)
    else readCluster flags (argument.toList.drop 1)

/-- Whether an argument is written like an option. -/
def isOption (argument : String) : Bool :=
  argument.startsWith "-" && argument != "-"

/-- Arguments as options and other words. -/
structure Arguments where
  given : List Given
  words : List String

/-- Reads arguments. Options may come after other words only if `mixed` is set; otherwise the first word
ends the options. -/
def readArguments (flags : List Flag) (mixed : Bool) : List String → Except UsageError Arguments
  | [] => .ok ⟨[], []⟩
  | argument :: rest =>
    if argument = "--" then
      .ok ⟨[], rest⟩
    else if isOption argument then do
      let cluster ← readOption flags argument
      match cluster.waiting, rest with
      | none, rest =>
        let others ← readArguments flags mixed rest
        return { others with given := cluster.given ++ others.given }
      | some f, [] => throw (.missingValue (f.spellings.headD f.name))
      | some f, value :: rest =>
        let others ← readArguments flags mixed rest
        return { others with given := cluster.given ++ ⟨f.name, some value⟩ :: others.given }
    else if mixed then do
      let others ← readArguments flags mixed rest
      return { others with words := argument :: others.words }
    else
      .ok ⟨[], argument :: rest⟩

namespace Arguments

/-- Whether an option was given. -/
def has (a : Arguments) (name : String) : Bool :=
  a.given.any (·.name == name)

/-- The values of an option in the order in which they were given. -/
def values (a : Arguments) (name : String) : List String :=
  a.given.filterMap fun g => if g.name = name then g.value else none

/-- The value of an option; the last one counts. -/
def value? (a : Arguments) (name : String) : Option String :=
  (a.values name).getLast?

end Arguments

end ClusterPlan.CommandLine
