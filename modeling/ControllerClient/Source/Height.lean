import ControllerClient.Source.Tree

/-!
How high the trees of source text are. Besides expressions, patterns and
statements, lists of parameters, single parameters, named arguments, clauses,
items of contexts, cases, handlers and imported names are nodes of their own.
-/

namespace ControllerClient.Source

mutual

def Expr.height : Expr → Nat
  | .constant _ | .name _ => 1
  | .formatted parts => partsHeight parts + 1
  | .member value _ | .starred value | .unary _ value | .named _ value | .awaited value
  | .yieldedFrom value => value.height + 1
  | .subscript left right | .binary _ left right => max left.height right.height + 1
  | .call callee arguments => max callee.height (argumentsHeight arguments) + 1
  | .boolean _ items | .tuple items | .list items | .set items => greatestHeight items + 1
  | .comparison first later => max first.height (comparedHeight later) + 1
  | .conditional condition ifTrue ifFalse =>
    max condition.height (max ifTrue.height ifFalse.height) + 1
  | .lambda parameters body => max parameters.height body.height + 1
  | .dict entries => entriesHeight entries + 1
  | .comprehension _ item clauses => max item.height (clausesHeight clauses) + 1
  | .dictComprehension key value clauses =>
    max key.height (max value.height (clausesHeight clauses)) + 1
  | .slice lower upper step =>
    max (heightOf? lower) (max (heightOf? upper) (heightOf? step)) + 1
  | .yielded value => heightOf? value + 1

def heightOf? : Option Expr → Nat
  | none => 0
  | some e => e.height

def greatestHeight : List Expr → Nat
  | [] => 0
  | e :: rest => max e.height (greatestHeight rest)

def comparedHeight : List (Comparison × Expr) → Nat
  | [] => 0
  | (_, e) :: rest => max e.height (comparedHeight rest)

def entriesHeight : List (Option Expr × Expr) → Nat
  | [] => 0
  | (key, value) :: rest => max (heightOf? key) (max value.height (entriesHeight rest))

def partsHeight : List FormatPart → Nat
  | [] => 0
  | .literal _ :: rest => max 1 (partsHeight rest)
  | .field value _ none :: rest => max (value.height + 1) (partsHeight rest)
  | .field value _ (some format) :: rest =>
    max (max value.height (partsHeight format + 1) + 1) (partsHeight rest)

def argumentsHeight : List Argument → Nat
  | [] => 0
  | .positional value :: rest => max value.height (argumentsHeight rest)
  | .starred value :: rest | .keyword _ value :: rest | .doubleStarred value :: rest =>
    max (value.height + 1) (argumentsHeight rest)

def clausesHeight : List Clause → Nat
  | [] => 0
  | .mk _ target source conditions :: rest =>
    max (max target.height (max source.height (greatestHeight conditions)) + 1)
      (clausesHeight rest)

def Parameter.height : Parameter → Nat
  | .mk _ note default => max (heightOf? note + 1) (heightOf? default)

def parametersHeight : List Parameter → Nat
  | [] => 0
  | parameter :: rest => max parameter.height (parametersHeight rest)

def parameterHeight? : Option Parameter → Nat
  | none => 0
  | some parameter => parameter.height

def Parameters.height : Parameters → Nat
  | .mk positionalOnly positional rest keywordOnly keywordRest =>
    max (parametersHeight positionalOnly)
      (max (parametersHeight positional)
        (max (parameterHeight? rest)
          (max (parametersHeight keywordOnly) (parameterHeight? keywordRest)))) + 1

end

def valuePatternHeight : Expr → Nat
  | .constant .none | .constant (.bool _) => 1
  | e => e.height + 1

mutual

def Pattern.height : Pattern → Nat
  | .value e => valuePatternHeight e
  | .wildcard | .capture _ | .rest _ => 1
  | .aliased pattern _ => pattern.height + 1
  | .alternatives patterns | .sequence patterns => patternsHeight patterns + 1
  | .mapping entries _ => mappedHeight entries + 1
  | .instance type positional keyword =>
    max type.height (max (patternsHeight positional) (namedHeight keyword)) + 1

def patternsHeight : List Pattern → Nat
  | [] => 0
  | pattern :: rest => max pattern.height (patternsHeight rest)

def mappedHeight : List (Expr × Pattern) → Nat
  | [] => 0
  | (key, pattern) :: rest => max key.height (max pattern.height (mappedHeight rest))

def namedHeight : List (Text × Pattern) → Nat
  | [] => 0
  | (_, pattern) :: rest => max pattern.height (namedHeight rest)

end

def contextHeight : List (Expr × Option Expr) → Nat
  | [] => 0
  | (e, target) :: rest => max (max e.height (heightOf? target) + 1) (contextHeight rest)

mutual

def Stmt.height : Stmt → Nat
  | .function _ _ parameters result body decorators =>
    max (max parameters.height (heightOf? result))
      (max (statementsHeight body) (greatestHeight decorators)) + 1
  | .classDefinition _ arguments body decorators =>
    max (argumentsHeight arguments) (max (statementsHeight body) (greatestHeight decorators)) + 1
  | .returned value => heightOf? value + 1
  | .deleted targets => greatestHeight targets + 1
  | .assigned targets value => max (greatestHeight targets) value.height + 1
  | .augmented target _ value => max target.height value.height + 1
  | .annotated target note value => max target.height (max note.height (heightOf? value)) + 1
  | .loop _ target source body otherwise =>
    max (max target.height source.height)
      (max (statementsHeight body) (statementsHeight otherwise)) + 1
  | .whileLoop condition body otherwise | .choice condition body otherwise =>
    max condition.height (max (statementsHeight body) (statementsHeight otherwise)) + 1
  | .context _ items body => max (contextHeight items) (statementsHeight body) + 1
  | .selection subject cases => max subject.height (casesHeight cases) + 1
  | .raised failure cause => max (heightOf? failure) (heightOf? cause) + 1
  | .attempt body handlers _ otherwise finally_ =>
    max (max (statementsHeight body) (handlersHeight handlers))
      (max (statementsHeight otherwise) (statementsHeight finally_)) + 1
  | .assertion condition message => max condition.height (heightOf? message) + 1
  | .imported _ | .importedFrom _ _ _ => 2
  | .expression value => value.height + 1
  | .globals _ | .nonlocals _ | .pass | .breaking | .continuing => 1

def statementsHeight : List Stmt → Nat
  | [] => 0
  | statement :: rest => max statement.height (statementsHeight rest)

def casesHeight : List Case → Nat
  | [] => 0
  | .mk pattern guard body :: rest =>
    max (max pattern.height (max (heightOf? guard) (statementsHeight body)) + 1)
      (casesHeight rest)

def handlersHeight : List Handler → Nat
  | [] => 0
  | .mk type _ body :: rest =>
    max (max (heightOf? type) (statementsHeight body) + 1) (handlersHeight rest)

end

/-- How high the statements of a text may be. -/
def heightLimit : Nat := 2978

end ControllerClient.Source
