import ClusterPlan.Console.Expression.Quoted

/-!
# Terms of an expression

What is kept of an expression that has been read: what messages call it, and what is known about its
value. Only literals have a value: numbers, texts, the sums of a real and an imaginary number, and
collections of them.
-/

namespace ClusterPlan.Console.Expression

/-- What is known about the value of an expression. -/
inductive Worth where
  /-- A numeral. -/
  | number (quantity : Quantity)
  /-- A numeral with a sign. -/
  | signed (quantity : Quantity)
  /-- A value that a set can hold. -/
  | plain
  /-- A value that no set can hold, by the name of its type. -/
  | unhashable (type : String)

/-- Why an expression has no value; the reason is missing if it depends on more than the expression. -/
abbrev Worthless := Option String

/-- Whether a set can hold the value. -/
def Worth.hash : Worth → Except Worthless Unit
  | .unhashable type => .error (some s!"unhashable type: '{type}'")
  | _ => .ok ()

/-- An expression: what it is called, its name if it is one, what stands in the way of an assignment to
it, and its value. -/
structure Expr where
  label : String
  name : List Char := []
  obstacle : Option String := some label
  worth : Except Worthless Worth := .error none

namespace Expr

/-- A name. -/
def ofName (name : List Char) : Expr :=
  { label := "name", name, obstacle := none }

/-- A constant, called by its label. -/
def constant (label : String) (worth : Worth) : Expr :=
  { label, worth := .ok worth }

/-- A tuple. Its value fits into a set if those of its elements do. -/
def tuple (es : List Expr) : Expr where
  label := "tuple"
  obstacle := es.findSome? (·.obstacle)
  worth := do
    let worths ← es.mapM (·.worth)
    match worths.find? fun w => w matches .unhashable _ with
    | some w => return w
    | none => return .plain

/-- A set. -/
def set (es : List Expr) : Expr where
  label := "set display"
  worth := do
    es.forM fun e => do (← e.worth).hash
    return .unhashable "set"

/-- A dictionary; an entry without a key holds the entries of another one. -/
def dictionary (entries : List (Option Expr × Expr)) : Expr where
  label := "dict literal"
  worth := do
    entries.forM fun (key?, value) => do
      let key ← match key? with
        | some key => key.worth
        | none => throw (some "malformed node or string: None")
      discard value.worth
      key.hash
    return .unhashable "dict"

/-- A plus or a minus in front of an operand. -/
def sign (e : Expr) : Expr where
  label := "expression"
  worth :=
    match e.worth with
    | .ok (.number q) => .ok (.signed q)
    | _ => .error none

/-- The least integer that is too large for a real number. -/
def realLimit : Nat := (1 <<< 1024) - (1 <<< 970)

/-- A sum or a difference, which has a value if it is a complex number. -/
def sum (left right : Expr) : Expr where
  label := "expression"
  worth :=
    match left.worth, right.worth with
    | .ok (.number q), .ok (.number .imaginary) | .ok (.signed q), .ok (.number .imaginary) =>
      match q with
      | .integer n =>
        if realLimit ≤ n then .error (some Failure.integerTooLarge.message) else .ok .plain
      | .real => .ok .plain
      | .imaginary => .error none
    | _, _ => .error none

/-- A call; the one of `set` without arguments makes an empty set. -/
def call (callee : Expr) (hasArguments : Bool) : Expr where
  label := "function call"
  worth :=
    if callee.label == "name" && callee.name == "set".toList && !hasArguments then
      .ok (.unhashable "set")
    else .error none

/-- A comparison; if it asks whether the left side is in the right one, only the left side stands in the
way of an assignment. -/
def comparison (left : Expr) (asksMembership : Bool) : Expr where
  label := "comparison"
  obstacle := if asksMembership then left.obstacle else none

/-- An expression behind a star. -/
def starred (e : Expr) : Expr where
  label := "starred"
  obstacle := e.obstacle

/-- Access to an attribute. -/
def access : Expr :=
  { label := "attribute", obstacle := none }

/-- An expression of which only the label matters. -/
def other (label : String) : Expr :=
  { label }

/-- Whether the expression is a word that was a statement once. -/
def isLegacy (e : Expr) : Bool :=
  e.label == "name" && (e.name == "print".toList || e.name == "exec".toList)

/-- Whether the value of the expression is that of a literal. -/
def value (e : Expr) : Except Worthless Unit :=
  discard e.worth

end Expr

/-- The arguments of a call: how many have no name, and whether some come from a dictionary. -/
structure Arguments where
  positional : Nat
  unpacks : Bool

/-- What a pattern reads. -/
inductive Term where
  | nothing
  | token (t : Token)
  | list (ts : List Term)
  | expr (e : Expr)
  | entry (key : Option Expr) (value : Expr)
  | keyword (unpacks : Bool)
  | arguments (a : Arguments)

namespace Term

/-- The expression that a term is. -/
def toExpr : Term → Expr
  | .expr e => e
  | .token t => .ofName t.text
  | _ => .other "expression"

/-- The parts of a list. -/
def parts : Term → List Term
  | .list ts => ts
  | _ => []

/-- The expressions of a list. -/
def exprs (t : Term) : List Expr :=
  t.parts.map toExpr

end Term

/-- The arguments that some terms are. -/
def Arguments.ofTerms (ts : List Term) : Arguments where
  positional := ts.countP fun t => t matches .expr _
  unpacks := ts.any fun t => t matches .keyword true

end ClusterPlan.Console.Expression
