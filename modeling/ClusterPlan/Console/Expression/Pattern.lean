import ClusterPlan.Console.Expression.Term
import Std.Data.HashMap

/-!
# Patterns of tokens

A grammar gives each of its rules alternatives, which are tried in order; the first one that matches
decides. What the rules found at a place is kept, so that no rule is tried twice there. A rule may begin
with itself: it is then read again and again, each time with the previous result in its own place, as
long as the result grows. Rules that explain mistakes take part only on request. Tokens are asked for as
reading goes on, so that a broken end of the text matters only if reading gets there.
-/

namespace ClusterPlan.Console.Expression

/-- A pattern of tokens, over rules of type `R`. -/
inductive Pattern (R : Type) where
  | kind (kind : TokenKind)
  /-- A sign or keyword. -/
  | sign (text : List Char)
  /-- A name that is the beginning of one of some words. -/
  | beginning (words : List (List Char))
  | rule (r : R)
  | choice (ps : List (Pattern R))
  | run (ps : List (Pattern R))
  | maybe (p : Pattern R)
  | many (p : Pattern R)
  /-- At least one. -/
  | some (p : Pattern R)
  /-- At least one, with commas between them. -/
  | listed (p : Pattern R)
  | follows (p : Pattern R)
  | lacks (p : Pattern R)

/-- What an alternative makes of the terms that its patterns read. -/
inductive Verdict where
  | term (t : Term)
  /-- The alternative does not match after all, and neither does the rule. -/
  | refused
  | fault (reason : String)

/-- An alternative of a rule. The rule is `committed` to the alternative once that many of its patterns
match. The last token and the terms of the patterns decide about the outcome. -/
structure Alternative (R : Type) where
  patterns : List (Pattern R)
  make : (last : Option Token) → List Term → Verdict
  committed : Option Nat := none
  explains : Bool := false

/-- How the results of a rule are kept. -/
inductive Keeping where
  | forgotten
  | kept
  /-- The rule begins with itself. -/
  | growing
  /-- Within the rule no mistakes are explained. -/
  | silent
deriving DecidableEq

/-- The rules of a grammar. -/
structure Grammar (R : Type) where
  alternatives : R → List (Alternative R)
  keeping : R → Keeping

/-- A fault that ends the reading when `asked` tokens have been asked for. It is `lexical` if the next
one could not be read. -/
structure Fault where
  reason : String
  asked : Nat
  lexical : Bool

/-- What has been found so far: the results of rules with the places behind them, the number of tokens that
were asked for, and whether mistakes are explained. -/
structure Findings (R : Type) [BEq R] [Hashable R] where
  results : Std.HashMap (R × Nat) (Option Term × Nat) := {}
  asked : Nat := 0
  explaining : Bool := false

/-- The tokens of a text. -/
structure Source where
  tokens : Array Token
  ending : Ending

/-- The tokens of a text and how they end. -/
def Source.ofText (text : List Char) : Source :=
  let (read, ending) := Expression.tokens text
  ⟨read.toArray, ending⟩

/-- Reading with a grammar over `R`. -/
abbrev Reading (R : Type) [BEq R] [Hashable R] :=
  StateT (Findings R) (Except Fault)

/-- What patterns read: the terms and the place behind them, or whether a rule is committed. -/
inductive Match where
  | found (ts : List Term) (place : Nat)
  | failed (committed : Bool)

section
variable {R : Type} [BEq R] [Hashable R]

/-- Asks for the token at a place. -/
def ask (source : Source) (place : Nat) : Reading R (Option Token) := do
  let findings ← get
  match source.tokens[place]? with
  | some t =>
    set { findings with asked := max findings.asked (place + 1) }
    return some t
  | none =>
    match source.ending with
    | .complete => return none
    | .malformed reason | .stopped reason _ => throw ⟨reason, findings.asked, true⟩

/-- The token at a place, if it satisfies `p`. -/
def expect (source : Source) (place : Nat) (p : Token → Bool) : Reading R (Option (Term × Nat)) := do
  match ← ask source place with
  | some t => return if p t then some (.token t, place + 1) else none
  | none => return none

/-- What a pattern is read with: how each smaller task is done. -/
inductive Task (R : Type) where
  | pattern (p : Pattern R)
  /-- One more of a repetition, of which `found` lie behind in reverse. -/
  | again (p : Pattern R) (listed : Bool) (found : List Term)
  | rule (r : R)
  /-- The alternatives of a rule. -/
  | alternatives (alts : List (Alternative R))
  /-- The patterns of an alternative behind those of which `found` are the terms, in reverse. -/
  | patterns (ps : List (Pattern R)) (found : List Term) (committed : Option Nat)
  /-- Growing the result of a rule. -/
  | grow (r : R) (best : Option Term) (bound : Nat)

/-- Does a task at a place. The fuel bounds how deep tasks are nested. -/
def Grammar.perform (g : Grammar R) (source : Source) :
    (fuel : Nat) → Task R → (place : Nat) → Reading R Match
  | 0, _, _ => return .failed false
  | fuel + 1, .pattern p, place => do
    let single (result : Option (Term × Nat)) : Match :=
      match result with
      | some (t, next) => .found [t] next
      | none => .failed false
    match p with
    | .kind k => return single (← expect source place (·.kind == k))
    | .sign text =>
      return single (← expect source place fun t =>
        (t.kind == .sign || t.kind == .keyword) && t.text == text)
    | .beginning words =>
      return single (← expect source place fun t =>
        t.kind == .name && words.any (t.text.isPrefixOf ·))
    | .rule r => g.perform source fuel (.rule r) place
    | .choice [] => return .failed false
    | .choice (p :: ps) =>
      match ← g.perform source fuel (.pattern p) place with
      | .found ts next => return .found ts next
      | .failed _ => g.perform source fuel (.pattern (.choice ps)) place
    | .run ps =>
      match ← g.perform source fuel (.patterns ps [] none) place with
      | .found ts next => return .found [.list ts] next
      | .failed _ => return .failed false
    | .maybe p =>
      match ← g.perform source fuel (.pattern p) place with
      | .found ts next => return .found ts next
      | .failed _ => return .found [.nothing] place
    | .many p => g.perform source fuel (.again p false []) place
    | .some p =>
      match ← g.perform source fuel (.pattern p) place with
      | .found ts next => g.perform source fuel (.again p false ts) next
      | .failed _ => return .failed false
    | .listed p =>
      match ← g.perform source fuel (.pattern p) place with
      | .found ts next => g.perform source fuel (.again p true ts) next
      | .failed _ => return .failed false
    | .follows p =>
      match ← g.perform source fuel (.pattern p) place with
      | .found _ _ => return .found [.nothing] place
      | .failed _ => return .failed false
    | .lacks p =>
      match ← g.perform source fuel (.pattern p) place with
      | .found _ _ => return .failed false
      | .failed _ => return .found [.nothing] place
  | fuel + 1, .again p listed found, place => do
    let done := Match.found [.list found.reverse] place
    let start? ←
      if listed then pure ((← expect source place fun t => t.text == [',']).map (·.2))
      else pure (some place)
    match start? with
    | none => return done
    | some start =>
      match ← g.perform source fuel (.pattern p) start with
      | .found ts next =>
        if next ≤ place then return done
        else g.perform source fuel (.again p listed (ts.reverse ++ found)) next
      | .failed _ => return done
  | _ + 1, .patterns [] found _, place => return .found found.reverse place
  | fuel + 1, .patterns (p :: ps) found committed, place => do
    match ← g.perform source fuel (.pattern p) place with
    | .found ts next =>
      g.perform source fuel (.patterns ps (ts.reverse ++ found) committed) next
    | .failed _ => return .failed (committed.any (· ≤ found.length))
  | _ + 1, .alternatives [], _ => return .failed false
  | fuel + 1, .alternatives (a :: as), place => do
    if a.explains && !(← get).explaining then
      g.perform source fuel (.alternatives as) place
    else
      match ← g.perform source fuel (.patterns a.patterns [] a.committed) place with
      | .found ts next =>
        match a.make (source.tokens[next - 1]?) ts with
        | .term t => return .found [t] next
        | .refused => return .failed false
        | .fault reason => throw ⟨reason, (← get).asked, false⟩
      | .failed true => return .failed true
      | .failed false => g.perform source fuel (.alternatives as) place
  | fuel + 1, .grow r best bound, place => do
    modify fun f => { f with results := f.results.insert (r, place) (best, bound) }
    let done := match best with
      | some t => Match.found [t] bound
      | none => .failed false
    match ← g.perform source fuel (.alternatives (g.alternatives r)) place with
    | .found (t :: _) next =>
      if next ≤ bound then return done else g.perform source fuel (.grow r (some t) next) place
    | _ => return done
  | fuel + 1, .rule r, place => do
    discard (ask source place)
    let alternatives := Task.alternatives (g.alternatives r)
    match g.keeping r with
    | .forgotten => g.perform source fuel alternatives place
    | .silent =>
      let explaining := (← get).explaining
      modify ({ · with explaining := false })
      let result ← g.perform source fuel alternatives place
      modify ({ · with explaining })
      return result
    | keeping =>
      match (← get).results[(r, place)]? with
      | some (some t, next) => return .found [t] next
      | some (none, _) => return .failed false
      | none =>
        if keeping == .growing then g.perform source fuel (.grow r none place) place
        else
          let result ← g.perform source fuel alternatives place
          let kept := match result with
            | .found (t :: _) next => (some t, next)
            | _ => (none, place)
          modify fun f => { f with results := f.results.insert (r, place) kept }
          return result

/-- How deep tasks are nested at most, for each token. -/
def depthPerToken : Nat := 500

/-- Reads a rule at the start of a text. The result is the term, or none with the findings. -/
def Grammar.read (g : Grammar R) (source : Source) (r : R) (findings : Findings R) :
    Except Fault (Option Term × Findings R) := do
  let fuel := depthPerToken * (source.tokens.size + 2)
  match ← (g.perform source fuel (.rule r) 0).run findings with
  | (.found (t :: _) _, findings) => return (some t, findings)
  | (_, findings) => return (none, findings)

/-- What takes the place of a fault that was found when `asked` tokens had been asked for: a token that is
malformed further on comes first, and so does a bracket of an earlier line that is never closed. -/
def Source.reason (source : Source) (reason : String) (asked : Nat) : String :=
  match source.ending with
  | .malformed other => other
  | .stopped _ (some b) =>
    if source.tokens[asked - 1]?.any (b.line < ·.line) then s!"'{b.sign}' was never closed" else reason
  | _ => reason

/-- The reason that a fault gives in the end. What is wrong further on is not looked for when the text has
been read up to its end. -/
def Fault.final (source : Source) (f : Fault) : String :=
  if f.lexical || source.tokens[f.asked - 1]?.any (·.last) then f.reason
  else source.reason f.reason f.asked

/-- Reads a text by a rule. If the rule does not match, the text is read once more, with explanations of
mistakes. -/
def Grammar.parse (g : Grammar R) (source : Source) (r : R) : Except String Term :=
  match g.read source r {} with
  | .error fault => .error (fault.final source)
  | .ok (some t, _) => .ok t
  | .ok (none, first) =>
    match g.read source r { asked := first.asked, explaining := true } with
    | .error fault => .error (fault.final source)
    | .ok (_, second) =>
      match source.tokens[first.asked - 1]?.map Token.kind with
      | some TokenKind.indent => .error "unexpected indent"
      | some TokenKind.dedent => .error "unexpected unindent"
      | _ => .error (source.reason "invalid syntax" second.asked)

end

end ClusterPlan.Console.Expression
