import ClusterPlan.BaseConfiguration
import ClusterPlan.Proofs.FileTree
import ClusterPlan.Proofs.Flatten
import ClusterPlan.Proofs.YamlDocument

/-!
# How loading the base configuration ends

A base configuration is lost at one of four stages: its path, the text of its bytes, the value of its document
and the conversion of its leaves. Most failures there are reported as the user's, and `Unreported` lists the
others with what they need to occur: a path that is too long, bytes that are no text, impossible tags and
scalars, a mapping inside of itself, and numbers at their limits. What the value of a document can be
(`Value.Documented`) leaves no other reason for an option to reject it. The main statement is
`loadBase_outcome`.
-/

namespace ClusterPlan

section
variable {tolerance : Tolerance}

/-! ## Values of documents under known keys -/

namespace ConfigOption

end ConfigOption

namespace Configuration

variable {tree : List (Value × Value)} {ls : List (String × Value)}

end Configuration

end

/-! ## Loading -/

section
variable {env : Environment} {file : Path} {f : Failure}

/-- The file exists and holds a document with the value. -/
structure HoldsDocument (env : Environment) (file : Path) (v : Value) : Prop where
  isFile : env.files.isFile env.directory file = .ok true
  document : ∃ d, openDocument env file = .ok d ∧ Yaml.read d = .ok v

/-- The document in the file is not over and not malformed where its bytes cease to be a text. -/
structure HoldsNoText (env : Environment) (file : Path) (fault : Text.Utf8Fault) : Prop where
  isFile : env.files.isFile env.directory file = .ok true
  document : ∃ d, openDocument env file = .ok d ∧ d.ending = .noText fault ∧ Yaml.read d = .error .cut

/-- The document in the file has a tag or a scalar that is impossible. -/
structure HoldsImpossible (env : Environment) (file : Path) (f : Failure) : Prop where
  isFile : env.files.isFile env.directory file = .ok true
  document : ∃ d, openDocument env file = .ok d ∧ Yaml.read d = .error (.impossible f)

/-- Why loading a base configuration ends in a failure that is not reported as the user's. -/
inductive Unreported (env : Environment) (file : Path) : Failure → Prop
  /-- The operating system refuses the path. -/
  | path {fault : FileFault} : fault = .nameTooLong ∨ fault = .permission →
      env.files.isFile env.directory file = .error (.fileFault fault file.text) →
      Unreported env file (.fileFault fault file.text)
  | bytes {fault : Text.Utf8Fault} : HoldsNoText env file fault → Unreported env file (.notUtf8 fault)
  | impossible {f : Failure} : HoldsImpossible env file f → Unreported env file f
  /-- A number in the document has more digits than a text can have. -/
  | number {tree : List (Value × Value)} : HoldsDocument env file (.mapping tree) →
      Unreported env file .numberTooLong
  /-- A mapping is inside of itself. -/
  | nesting {tree : List (Value × Value)} : HoldsDocument env file (.mapping tree) →
      (∀ ls, ¬ Configuration.Leaves env.tolerance tree ls) → Unreported env file .endlessNesting
  /-- The value of a known key is beyond a limit of numbers. -/
  | limit {tree : List (Value × Value)} {ls : List (String × Value)} {key s : String} {o : ConfigOption}
      {v : Value} {f : Failure} : HoldsDocument env file (.mapping tree) →
      Configuration.Leaves env.tolerance tree ls → Configuration.LastLeaf ls key v →
      ConfigOption.known? key = some o → v.text env.tolerance = .ok s → ¬ o.WithinLimits s →
      f.isLimit = true → Unreported env file f

theorem Unreported.family (h : Unreported env file f) : f.family = .unexpected := by
  cases h with
  | path | bytes | number | nesting => rfl
  | impossible h =>
    obtain ⟨d, -, h⟩ := h.document
    exact (Yaml.reads_read d).family h
  | limit _ _ _ _ _ _ h => exact Failure.family_of_isLimit h

namespace Configuration

end Configuration

end

end ClusterPlan
