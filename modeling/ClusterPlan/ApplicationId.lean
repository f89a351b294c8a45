import ClusterPlan.Failure

/-!
# Application IDs

An application is known by the start time of the resource manager that runs it and by its number
there, written `application_<time>_<number>` with at least four digits in the number.
-/

namespace ClusterPlan

/-- The identifier of an application. -/
structure ApplicationId where
  timestamp : Int
  sequence : Int
deriving DecidableEq, Repr, Inhabited

namespace ApplicationId

/-- What every application ID starts with. -/
def leader : List Char := "application_".toList

/-- The two runs of digits of an ID, if the text has the form of one. -/
def split? (cs : List Char) : Option (List Char × List Char) :=
  if cs.take leader.length = leader then
    let rest := cs.drop leader.length
    let timestamp := rest.takeWhile Text.isDigit
    match rest.dropWhile Text.isDigit with
    | '_' :: sequence =>
      if timestamp.isEmpty || sequence.isEmpty || !sequence.all Text.isDigit then none
      else some (timestamp, sequence)
    | _ => none
  else
    none

/-- Reads an ID; blanks around it do not matter. -/
def parse (s : String) : Except Failure ApplicationId :=
  match split? (Text.trim s.toList) with
  | none => .error (.applicationId s)
  | some (timestamp, sequence) => do
    let timestamp ← readDigits timestamp
    let sequence ← readDigits sequence
    .ok ⟨timestamp, sequence⟩

/-- The text of an ID. -/
def text (a : ApplicationId) : Except Failure String := do
  let timestamp ← writeInt a.timestamp
  let sequence ← writePadded 4 a.sequence
  return "application_" ++ timestamp ++ "_" ++ sequence

end ApplicationId

end ClusterPlan
