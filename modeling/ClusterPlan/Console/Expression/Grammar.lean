import ClusterPlan.Console.Expression.Pattern

/-!
# The grammar of expressions

The rules for the expressions of a programming language, from conditions down to names and literals, and
the rules that explain mistakes in them. There are neither lists nor subscripts, because the text never
holds square brackets. Each rule is named for what it reads.
-/

namespace ClusterPlan.Console.Expression

/-- What a rule of the grammar reads. -/
inductive Rule where
  | whole | field
  | expressions | expression | unexplained | yielded
  | starExpressions | starExpression | starNameds | starNamed | assigned | named
  | disjunction | conjunction | inversion | comparison | comparisonTail
  | bitOr | bitXor | bitAnd | shift | sum | term | factor | power | awaited | primary | atom
  | texts | tuple | group | generator | dictionary | set | dictionaryOf | setOf
  | pairs | pair | keyed | clauses | clause
  | call | arguments | starred | positional | keywordList | keywordOrStarred | keywordOrDouble
  | lambda | parameters | plainSlash | defaultSlash | starParameters | doubleParameter
  | plainParameter | defaultParameter | anyParameter | default
  | targets | target | plainTarget | targetAtom | targetTuple | targetPrimary
  | badCall | badKeyword | badExpression | legacy | badNamed | badGenerator | badDictionary
  | badParameters | badStar | badDouble | badDefault | badClause | badGroup | badPairs | badPair
deriving DecidableEq, Hashable

namespace Rule

/-- How the results of a rule are kept. -/
def keeping : Rule → Keeping
  | expression | starExpression | disjunction | conjunction | inversion | factor | awaited | texts
  | arguments | target | plainTarget | badNamed => .kept
  | bitOr | bitXor | bitAnd | shift | sum | term | primary | targetPrimary => .growing
  | unexplained => .silent
  | _ => .forgotten

instance : Coe Rule (Pattern Rule) := ⟨.rule⟩

/-- A sign or keyword. -/
def lit (text : String) : Pattern Rule :=
  .sign text.toList

/-- A name. -/
def anyName : Pattern Rule := .kind .name

/-- One of several signs or keywords. -/
def oneOf (texts : List String) : Pattern Rule :=
  .choice (texts.map lit)

/-- An alternative whose term is made of those of its patterns. -/
def alt (patterns : List (Pattern Rule)) (make : List Term → Term) : Alternative Rule where
  patterns
  make _ ts := .term (make ts)

/-- An alternative that stands for one of its parts. -/
def pick (n : Nat) (patterns : List (Pattern Rule)) : Alternative Rule :=
  alt patterns fun ts => ts[n]?.getD .nothing

/-- An alternative for an expression. -/
def expr (patterns : List (Pattern Rule)) (make : List Expr → Expr) : Alternative Rule :=
  alt patterns fun ts => .expr (make (ts.map Term.toExpr))

/-- An alternative for an expression with a fixed label. -/
def labelled (label : String) (patterns : List (Pattern Rule)) : Alternative Rule :=
  expr patterns fun _ => .other label

/-- An alternative that is a mistake. -/
def mistake (patterns : List (Pattern Rule)) (reason : String) : Alternative Rule where
  patterns
  make _ _ := .fault reason

/-- An alternative that is a mistake for some terms only. -/
def mistakeIf (patterns : List (Pattern Rule)) (reason? : List Term → Option String) :
    Alternative Rule where
  patterns
  make _ ts := match reason? ts with
    | some reason => .fault reason
    | none => .refused

/-- An alternative that only explains mistakes. -/
def explain (r : Rule) : Alternative Rule where
  patterns := [r]
  make _ _ := .refused
  explains := true

/-- A tuple of the expression and the ones behind it. -/
def tupleOf (ts : List Term) : Term :=
  .expr (.tuple (match ts with
    | first :: rest :: _ => first.toExpr :: rest.parts.flatMap fun t => (t.parts.drop 1).map Term.toExpr
    | ts => ts.map Term.toExpr))

/-- The expressions that an alternative of a list with commas may be. -/
def commaList (r : Rule) : List (Alternative Rule) :=
  [alt [r, .some (.run [lit ",", r]), .maybe (lit ",")] tupleOf,
    expr [r, lit ","] fun es => .tuple (es.take 1),
    pick 0 [r]]

/-- The alternatives of an operator that binds to the left. -/
def leftOperators (r tighter : Rule) (signs : List String) : List (Alternative Rule) :=
  signs.map (fun s => expr [r, lit s, tighter] fun es =>
    match s, es with
    | "+", [left, _, right] | "-", [left, _, right] => .sum left right
    | _, _ => .other "expression") ++ [pick 0 [tighter]]

/-- The plain pattern of an argument without a name. -/
def argument : Pattern Rule :=
  .choice [assigned, .run [expression, .lacks (lit ":=")]]

/-- The expression that a pattern with a condition behind it has read. -/
def unwrap (t : Term) : Term :=
  match t with
  | .list [t, _] => t
  | t => t

/-- What is wrong with a text of quoted texts side by side, and the expression that it is. `check` says
what is wrong with an expression inside a text. -/
def readTexts (check : List Char → Except String Unit) (ts : List Term) : Verdict :=
  let quoteds := ts.flatMap fun
    | .token t => [Quoted.ofToken t.text]
    | _ => []
  match quoteds.forM (Quoted.check check ((quoteds.head?.map (·.bytes)).getD false)) with
  | .error reason => .fault reason
  | .ok () =>
    .term (.expr (if quoteds.any (·.interpolated) then .other "f-string expression"
      else .constant "literal" .plain))

/-- The expression that a numeral is. -/
def readNumber (ts : List Term) : Verdict :=
  match ts with
  | [.token t] =>
    match readNumeral t.text with
    | .ok q => .term (.expr (.constant "literal" (.number q)))
    | .error reason => .fault reason
  | _ => .refused

/-- The words that are keywords in some places only. -/
def softKeywords : List (List Char) :=
  ["_", "case", "match"].map String.toList

/-- The rules that explain mistakes. -/
def mistakes : Rule → List (Alternative Rule)
  | badCall =>
    let parenthesize := "Generator expression must be parenthesized"
    [mistake [call, lit ",", lit "*"]
        "iterable argument unpacking follows keyword argument unpacking",
      mistake [expression, clauses, lit ",", .maybe (.choice [call, .run [expression, clauses]])]
        parenthesize,
      mistake [anyName, lit "=", expression, clauses]
        "invalid syntax. Maybe you meant '==' or ':=' instead of '='?",
      mistakeIf [call, clauses] fun
        | .arguments a :: _ => if a.positional ≤ 1 then none else some parenthesize
        | _ => none,
      mistake [call, lit ",", expression, clauses] parenthesize,
      mistakeIf [call, lit ",", call] fun
        | .arguments a :: _ =>
          some (if a.unpacks then "positional argument follows keyword argument unpacking"
            else "positional argument follows keyword argument")
        | _ => none]
  | badKeyword =>
    [mistakeIf [oneOf ["True", "False", "None"], lit "="] fun
        | .token t :: _ => some s!"cannot assign to {String.ofList t.text}"
        | _ => none,
      mistake [anyName, lit "=", expression, clauses]
        "invalid syntax. Maybe you meant '==' or ':=' instead of '='?",
      mistake [.lacks (.run [anyName, lit "="]), expression, lit "="]
        "expression cannot contain assignment, perhaps you meant \"==\"?"]
  | badExpression =>
    [{ patterns := [.lacks (.choice [.run [anyName, .kind .quoted], .beginning softKeywords]),
          disjunction, unexplained]
       make := fun last ts =>
        match ts, last with
        | [_, left, _], some t =>
          if left.toExpr.isLegacy || t.depth == 0 then .refused
          else .fault "invalid syntax. Perhaps you forgot a comma?"
        | _, _ => .refused },
      mistake [disjunction, lit "if", disjunction, .lacks (oneOf ["else", ":"])]
        "expected 'else' after 'if' expression"]
  | legacy =>
    [mistakeIf [anyName, .lacks (lit "("), starExpressions] fun ts =>
      match ts with
      | t :: _ =>
        let name := String.ofList t.toExpr.name
        if t.toExpr.isLegacy then
          some s!"Missing parentheses in call to '{name}'. Did you mean {name}(...)?"
        else none
      | [] => none]
  | badNamed =>
    [mistakeIf [expression, lit ":=", expression] fun ts =>
        ts.head?.map fun t => s!"cannot use assignment expressions with {t.toExpr.label}",
      mistake [anyName, lit "=", bitOr, .lacks (oneOf ["=", ":="])]
        "invalid syntax. Maybe you meant '==' or ':=' instead of '='?",
      mistakeIf [.lacks (.choice [tuple, generator, lit "True", lit "None", lit "False"]), bitOr,
          lit "=", bitOr, .lacks (oneOf ["=", ":="])] fun ts =>
        (ts.drop 1).head?.map fun t =>
          s!"cannot assign to {t.toExpr.label} here. Maybe you meant '==' instead of '='?"]
  | badGenerator =>
    let parenthesize := "did you forget parentheses around the comprehension target?"
    [mistake [oneOf ["(", "\x7b"], starred, clauses]
        "iterable unpacking cannot be used in comprehension",
      mistake [lit "\x7b", starNamed, lit ",", starNameds, clauses] parenthesize,
      mistake [lit "\x7b", starNamed, lit ",", clauses] parenthesize]
  | badDictionary =>
    [mistake [lit "\x7b", lit "**", bitOr, clauses, lit "\x7d"]
      "dict unpacking cannot be used in dict comprehension"]
  | badParameters =>
    let slash : Pattern Rule := .choice [plainSlash, defaultSlash]
    [mistake [.many plainParameter, .choice [defaultSlash, .some defaultParameter], plainParameter]
        "non-default argument follows default argument",
      mistake [.many plainParameter, lit "(", .listed anyName, .maybe (lit ","), lit ")"]
        "Lambda expression parameters cannot be parenthesized",
      mistake [lit "/", lit ","] "at least one argument must precede /",
      mistake [slash, .many anyParameter, lit "/"] "/ may appear only once",
      mistake [.maybe slash, .many anyParameter, lit "*", .choice [lit ",", plainParameter],
          .many anyParameter, lit "/"]
        "/ must be ahead of *",
      mistake [.some anyParameter, lit "/", lit "*"] "expected comma between / and *"]
  | badStar =>
    [mistake [lit "*", .choice [lit ":", .run [lit ",", oneOf [":", "**"]]]]
        "named arguments must follow bare *",
      mistake [lit "*", anyName, lit "="] "var-positional argument cannot have default value",
      mistake [lit "*", .choice [plainParameter, lit ","], .many anyParameter, lit "*",
          .choice [plainParameter, lit ","]]
        "* argument may appear only once"]
  | badDouble =>
    [mistake [lit "**", anyName, lit "="] "var-keyword argument cannot have default value",
      mistake [lit "**", anyName, lit ",", anyName] "arguments cannot follow var-keyword argument",
      mistake [lit "**", anyName, lit ",", oneOf ["*", "**", "/"]]
        "arguments cannot follow var-keyword argument"]
  | badDefault =>
    [mistake [lit "=", .follows (oneOf [")", ","])] "expected default value expression"]
  | badClause =>
    [mistakeIf [.maybe (lit "async"), lit "for", starExpressions] fun ts =>
      ts.getLast?.bind fun t => t.toExpr.obstacle.map fun label => s!"cannot assign to {label}"]
  | badGroup =>
    [mistake [lit "(", starred, lit ")"] "cannot use starred expression here",
      mistake [lit "(", lit "**", expression, lit ")"] "cannot use double starred expression here"]
  | badPairs =>
    [{ patterns := [.listed pair, lit ",", badPair], make := fun _ _ => .refused },
      mistake [expression, lit ":", lit "*", bitOr]
        "cannot use a starred expression in a dictionary value",
      mistake [expression, lit ":", .follows (oneOf ["\x7d", ","])]
        "expression expected after dictionary key and ':'"]
  | badPair =>
    [mistake [expression, .lacks (lit ":")] "':' expected after dictionary key",
      mistake [expression, lit ":", lit "*", bitOr]
        "cannot use a starred expression in a dictionary value",
      mistake [expression, lit ":", .follows (oneOf ["\x7d", ","])]
        "expression expected after dictionary key and ':'"]
  | _ => []

/-- The rules for the parameters of a function without a name, and for the targets of an assignment. -/
def bindings : Rule → List (Alternative Rule)
  | lambda => [labelled "lambda" [lit "lambda", .maybe parameters, lit ":", expression]]
  | parameters =>
    [explain badParameters,
      pick 0 [plainSlash, .many plainParameter, .many defaultParameter, .maybe starParameters],
      pick 0 [defaultSlash, .many defaultParameter, .maybe starParameters],
      pick 0 [.some plainParameter, .many defaultParameter, .maybe starParameters],
      pick 0 [.some defaultParameter, .maybe starParameters],
      pick 0 [starParameters]]
  | plainSlash =>
    [pick 0 [.some plainParameter, lit "/", lit ","],
      pick 0 [.some plainParameter, lit "/", .follows (lit ":")]]
  | defaultSlash =>
    [pick 0 [.many plainParameter, .some defaultParameter, lit "/", lit ","],
      pick 0 [.many plainParameter, .some defaultParameter, lit "/", .follows (lit ":")]]
  | starParameters =>
    [explain badStar,
      pick 0 [lit "*", plainParameter, .many anyParameter, .maybe doubleParameter],
      pick 0 [lit "*", lit ",", .some anyParameter, .maybe doubleParameter],
      pick 0 [doubleParameter]]
  | doubleParameter => [explain badDouble, pick 0 [lit "**", plainParameter]]
  | plainParameter => [pick 0 [anyName, lit ","], pick 0 [anyName, .follows (lit ":")]]
  | defaultParameter =>
    [pick 0 [anyName, default, lit ","], pick 0 [anyName, default, .follows (lit ":")]]
  | anyParameter =>
    [pick 0 [anyName, .maybe default, lit ","], pick 0 [anyName, .maybe default, .follows (lit ":")]]
  | default => [pick 1 [lit "=", expression], explain badDefault]
  | targets =>
    [pick 0 [target, .lacks (lit ",")],
      pick 0 [target, .many (.run [lit ",", target]), .maybe (lit ",")]]
  | target => [pick 2 [lit "*", .lacks (lit "*"), target], pick 0 [plainTarget]]
  | plainTarget =>
    [pick 0 [targetPrimary, lit ".", anyName, .lacks (oneOf ["(", "."])], pick 0 [targetAtom]]
  | targetAtom =>
    [pick 0 [anyName], pick 1 [lit "(", plainTarget, lit ")"],
      pick 1 [lit "(", .maybe targetTuple, lit ")"]]
  | targetTuple =>
    [pick 0 [target, .some (.run [lit ",", target]), .maybe (lit ",")], pick 0 [target, lit ","]]
  | targetPrimary =>
    let goesOn : Pattern Rule := .follows (oneOf ["(", "."])
    [pick 0 [targetPrimary, lit ".", anyName, goesOn],
      pick 0 [targetPrimary, generator, goesOn],
      pick 0 [targetPrimary, lit "(", .maybe arguments, lit ")", goesOn],
      pick 0 [atom, goesOn]]
  | r => mistakes r

/-- The rules for tuples, sets, dictionaries and calls. -/
def collections : Rule → List (Alternative Rule)
  | tuple =>
    [alt [lit "(", .maybe (.run [starNamed, lit ",", .maybe starNameds]), lit ")"] fun ts =>
      .expr (.tuple (match ts with
        | [_, .list [first, _, rest], _] => first.toExpr :: rest.exprs
        | _ => []))]
  | group => [pick 1 [lit "(", .choice [yielded, named], lit ")"], explain badGroup]
  | generator =>
    [labelled "generator expression" [lit "(", argument, clauses, lit ")"], explain badGenerator]
  | dictionary =>
    [alt [lit "\x7b", .maybe pairs, lit "\x7d"] fun ts =>
        .expr (.dictionary (((ts.drop 1).headD .nothing).parts.flatMap fun
          | .entry key value => [(key, value)]
          | _ => [])),
      { patterns := [lit "\x7b", badPairs, lit "\x7d"], make := fun _ _ => .refused }]
  | set => [alt [lit "\x7b", starNameds, lit "\x7d"] fun ts =>
      .expr (.set ((ts.drop 1).headD .nothing).exprs)]
  | dictionaryOf =>
    [labelled "dict comprehension" [lit "\x7b", keyed, clauses, lit "\x7d"], explain badDictionary]
  | setOf =>
    [labelled "set comprehension" [lit "\x7b", named, clauses, lit "\x7d"], explain badGenerator]
  | pairs => [pick 0 [.listed pair, .maybe (lit ",")]]
  | pair =>
    [alt [lit "**", bitOr] fun ts => .entry none ((ts.drop 1).headD .nothing).toExpr, pick 0 [keyed]]
  | keyed =>
    [alt [expression, lit ":", expression] fun ts =>
      .entry (some (ts.headD .nothing).toExpr) ((ts.drop 2).headD .nothing).toExpr]
  | clauses => [pick 0 [.some clause]]
  | clause =>
    let rest : List (Pattern Rule) :=
      [lit "for", targets, lit "in", disjunction, .many (.run [lit "if", disjunction])]
    [{ pick 0 (lit "async" :: rest) with committed := some 4 },
      { pick 0 rest with committed := some 3 },
      explain badClause]
  | arguments =>
    [pick 0 [call, .maybe (lit ","), .follows (lit ")")], explain badCall]
  | call =>
    [alt [.listed positional, .maybe (.run [lit ",", keywordList])] fun ts =>
        .arguments (.ofTerms (ts.flatMap fun
          | .list [.token _, others] => others.parts
          | t => t.parts)),
      alt [keywordList] fun ts => .arguments (.ofTerms (ts.flatMap Term.parts))]
  | keywordList =>
    [alt [.listed keywordOrStarred, lit ",", .listed keywordOrDouble] fun ts =>
        .list (ts.flatMap Term.parts),
      pick 0 [.listed keywordOrStarred], pick 0 [.listed keywordOrDouble]]
  | starred =>
    [expr [lit "*", expression] fun es => .starred (es.getD 1 (.other "expression")),
      mistake [lit "*"] "Invalid star expression"]
  | positional =>
    [pick 0 [starred],
      alt [argument, .lacks (lit "=")] fun ts => .expr (unwrap (ts.headD .nothing)).toExpr]
  | keywordOrStarred =>
    [explain badKeyword, alt [anyName, lit "=", expression] fun _ => .keyword false, pick 0 [starred]]
  | keywordOrDouble =>
    [explain badKeyword, alt [anyName, lit "=", expression] fun _ => .keyword false,
      alt [lit "**", expression] fun _ => .keyword true]
  | r => bindings r

/-- The rules for operators and what they join. -/
def operations : Rule → List (Alternative Rule)
  | comparison =>
    [alt [bitOr, .some comparisonTail] fun ts =>
        .expr (.comparison (ts.headD .nothing).toExpr
          (match ((ts.drop 1).headD .nothing).parts with
            | .token t :: _ => t.text == "in".toList
            | _ => false)),
      pick 0 [bitOr]]
  | comparisonTail =>
    (["==", "!=", "<=", "<", ">=", ">"].map fun s => pick 0 [lit s, bitOr])
      ++ [pick 0 [lit "not", lit "in", bitOr], pick 0 [lit "in", bitOr],
        pick 0 [lit "is", lit "not", bitOr], pick 0 [lit "is", bitOr]]
  | bitOr => leftOperators bitOr bitXor ["|"]
  | bitXor => leftOperators bitXor bitAnd ["^"]
  | bitAnd => leftOperators bitAnd shift ["&"]
  | shift => leftOperators shift sum ["<<", ">>"]
  | sum => leftOperators sum term ["+", "-"]
  | term => leftOperators term factor ["*", "/", "//", "%", "@"]
  | factor =>
    (["+", "-"].map fun s => expr [lit s, factor] fun es => .sign (es.getD 1 (.other "expression")))
      ++ [labelled "expression" [lit "~", factor], pick 0 [power]]
  | power => [labelled "expression" [awaited, lit "**", factor], pick 0 [awaited]]
  | awaited => [labelled "await expression" [lit "await", primary], pick 0 [primary]]
  | primary =>
    [expr [primary, lit ".", anyName] fun _ => .access,
      labelled "function call" [primary, generator],
      alt [primary, lit "(", .maybe arguments, lit ")"] fun ts =>
        .expr (.call (ts.headD .nothing).toExpr (((ts.drop 2).headD .nothing) matches .arguments _)),
      pick 0 [atom]]
  | r => collections r

/-- The rules of the grammar. `check` says what is wrong with an expression inside a text. -/
def alternatives (check : List Char → Except String Unit) : Rule → List (Alternative Rule)
  | whole => [pick 0 [expressions, .many (.kind .lineEnd), .kind .finish]]
  | field => [pick 0 [starExpressions]]
  | expressions => commaList expression
  | expression => [explain badExpression, explain legacy] ++ alternatives check unexplained
  | unexplained =>
    [labelled "conditional expression" [disjunction, lit "if", disjunction, lit "else", expression],
      pick 0 [disjunction], pick 0 [lambda]]
  | yielded =>
    [labelled "yield expression" [lit "yield", lit "from", expression],
      labelled "yield expression" [lit "yield", .maybe starExpressions]]
  | starExpressions => commaList starExpression
  | starExpression =>
    [expr [lit "*", bitOr] fun es => .starred (es.getD 1 (.other "expression")), pick 0 [expression]]
  | starNameds => [pick 0 [.listed starNamed, .maybe (lit ",")]]
  | starNamed =>
    [expr [lit "*", bitOr] fun es => .starred (es.getD 1 (.other "expression")), pick 0 [named]]
  | assigned => [{ labelled "named expression" [anyName, lit ":=", expression] with committed := some 2 }]
  | named => [pick 0 [assigned], explain badNamed, pick 0 [expression, .lacks (lit ":=")]]
  | disjunction =>
    [labelled "expression" [conjunction, .some (.run [lit "or", conjunction])], pick 0 [conjunction]]
  | conjunction =>
    [labelled "expression" [inversion, .some (.run [lit "and", inversion])], pick 0 [inversion]]
  | inversion => [labelled "expression" [lit "not", inversion], pick 0 [comparison]]
  | atom =>
    [alt [anyName] fun ts => .expr (ts.headD .nothing).toExpr]
      ++ (["True", "False", "None"].map fun s => expr [lit s] fun _ => .constant s .plain)
      ++ [pick 1 [.follows (.kind .quoted), texts],
        { patterns := [.kind .numeral], make := fun _ ts => readNumber ts },
        pick 1 [.follows (lit "("), .choice [tuple, group, generator]],
        pick 1 [.follows (lit "\x7b"), .choice [dictionary, set, dictionaryOf, setOf]],
        expr [lit "..."] fun _ => .constant "ellipsis" .plain]
  | texts =>
    [{ patterns := [.some (.kind .quoted)]
       make := fun _ ts => readTexts check (ts.flatMap Term.parts) }]
  | r => operations r
termination_by r => if r = expression then 1 else 0

end Rule

/-- The grammar of expressions. -/
def grammar (check : List Char → Except String Unit) : Grammar Rule where
  alternatives := Rule.alternatives check
  keeping := Rule.keeping

/-- Checks an expression that stands in a text inside of at most `depth` others. -/
def checkField : (depth : Nat) → List Char → Except String Unit
  | 0, _ => .ok ()
  | depth + 1, text =>
    let source := Source.ofText text
    match (grammar (checkField depth)).parse source .field with
    | .ok _ => .ok ()
    | .error reason =>
      match source.ending with
      | .malformed other => .error (if reason == other then reason else s!"f-string: {reason}")
      | _ => .error s!"f-string: {reason}"

/-- How deep texts can stand inside of each other: there are four ways to quote one. -/
def quoteDepth : Nat := 5

/-- Reads an expression. -/
def readExpression (text : List Char) : Except String Expr :=
  if text.contains '\x00' then .error "source code string cannot contain null bytes"
  else
    (·.toExpr) <$> (grammar (checkField quoteDepth)).parse (Source.ofText text) .whole

end ClusterPlan.Console.Expression
