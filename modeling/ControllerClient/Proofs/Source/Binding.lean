import ControllerClient.Source.Tree

/-!
Names that statements bind. A statement binds a name if running it can give the name another
meaning, or take its meaning away, in the place where the statement stands. What functions,
classes and lambdas bind inside is their own, unless they declare that it is a global name.
-/

namespace ControllerClient.Source

variable (name : Text)

mutual

/-- Whether an expression names its value, or one inside it, by the name. -/
def Expr.binds : Expr → Bool
  | .constant _ | .name _ => false
  | .formatted parts => partsBind parts
  | .member value _ | .starred value | .unary _ value | .awaited value | .yieldedFrom value =>
    value.binds
  | .named target value => target = name || value.binds
  | .subscript left right | .binary _ left right => left.binds || right.binds
  | .call callee arguments => callee.binds || argumentsBind arguments
  | .boolean _ items | .tuple items | .list items | .set items => anyBinds items
  | .comparison first later => first.binds || comparedBind later
  | .conditional condition ifTrue ifFalse => condition.binds || ifTrue.binds || ifFalse.binds
  -- The body runs later and binds names of its own.
  | .lambda parameters _ => parameters.binds
  | .dict entries => entriesBind entries
  -- The targets of its clauses are the comprehension's own; names that are given inside are not.
  | .comprehension _ item clauses => item.binds || clausesBind clauses
  | .dictComprehension key value clauses => key.binds || value.binds || clausesBind clauses
  | .slice lower upper step => binds? lower || binds? upper || binds? step
  | .yielded value => binds? value

def binds? : Option Expr → Bool
  | none => false
  | some e => e.binds

def anyBinds : List Expr → Bool
  | [] => false
  | e :: rest => e.binds || anyBinds rest

def comparedBind : List (Comparison × Expr) → Bool
  | [] => false
  | (_, e) :: rest => e.binds || comparedBind rest

def entriesBind : List (Option Expr × Expr) → Bool
  | [] => false
  | (key, value) :: rest => binds? key || value.binds || entriesBind rest

def partsBind : List FormatPart → Bool
  | [] => false
  | .literal _ :: rest => partsBind rest
  | .field value _ none :: rest => value.binds || partsBind rest
  | .field value _ (some format) :: rest => value.binds || partsBind format || partsBind rest

def argumentsBind : List Argument → Bool
  | [] => false
  | .positional value :: rest | .starred value :: rest | .keyword _ value :: rest
  | .doubleStarred value :: rest => value.binds || argumentsBind rest

def clausesBind : List Clause → Bool
  | [] => false
  | .mk _ target source conditions :: rest =>
    target.binds || source.binds || anyBinds conditions || clausesBind rest

def Parameter.binds : Parameter → Bool
  | .mk _ note default => binds? note || binds? default

def parametersBind : List Parameter → Bool
  | [] => false
  | parameter :: rest => parameter.binds || parametersBind rest

def parameterBinds? : Option Parameter → Bool
  | none => false
  | some parameter => parameter.binds

def Parameters.binds : Parameters → Bool
  | .mk positionalOnly positional rest keywordOnly keywordRest =>
    parametersBind positionalOnly || parametersBind positional || parameterBinds? rest ||
      parametersBind keywordOnly || parameterBinds? keywordRest

end

mutual

def Expr.isTargetOf : Expr → Bool
  | .name id => id = name
  | .starred target => target.isTargetOf
  | .tuple items | .list items => anyIsTargetOf items
  | _ => false

def anyIsTargetOf : List Expr → Bool
  | [] => false
  | target :: rest => target.isTargetOf || anyIsTargetOf rest

end

def Expr.targets (target : Expr) : Bool := target.isTargetOf name || target.binds name

mutual

def Pattern.binds : Pattern → Bool
  | .value e => e.binds name
  | .wildcard => false
  | .capture own => own = name
  | .aliased pattern own => own = name || pattern.binds
  | .alternatives patterns | .sequence patterns => patternsBind patterns
  | .rest own => own = some name
  | .mapping entries rest => mappedBind entries || rest = some name
  | .instance type positional keyword =>
    type.binds name || patternsBind positional || namedBind keyword

def patternsBind : List Pattern → Bool
  | [] => false
  | pattern :: rest => pattern.binds || patternsBind rest

def mappedBind : List (Expr × Pattern) → Bool
  | [] => false
  | (key, pattern) :: rest => key.binds name || pattern.binds || mappedBind rest

def namedBind : List (Text × Pattern) → Bool
  | [] => false
  | (_, pattern) :: rest => pattern.binds || namedBind rest

end

/-- The name under which a module is at hand: the one given, or the first piece of its own. -/
def Imported.moduleName (imported : Imported) : Text :=
  imported.given.getD (imported.name.takeWhile (· != '.'))

def contextsBind : List (Expr × Option Expr) → Bool
  | [] => false
  | (e, none) :: rest => e.binds name || contextsBind rest
  | (e, some target) :: rest => e.binds name || target.targets name || contextsBind rest

mutual

def Stmt.binds : Stmt → Bool
  | .function _ own parameters result _ decorators =>
    own = name || parameters.binds name || binds? name result || anyBinds name decorators
  | .classDefinition own arguments _ decorators =>
    own = name || argumentsBind name arguments || anyBinds name decorators
  | .returned value => binds? name value
  | .deleted targets => targets.any (Expr.targets name)
  | .assigned targets value => targets.any (Expr.targets name) || value.binds name
  | .augmented target _ value => target.targets name || value.binds name
  -- A note alone gives no value.
  | .annotated target note none => target.binds name || note.binds name
  | .annotated target note (some value) =>
    target.targets name || note.binds name || value.binds name
  | .loop _ target source body otherwise =>
    target.targets name || source.binds name || anyStatementBinds body ||
      anyStatementBinds otherwise
  | .whileLoop condition body otherwise | .choice condition body otherwise =>
    condition.binds name || anyStatementBinds body || anyStatementBinds otherwise
  | .context _ items body => contextsBind name items || anyStatementBinds body
  | .selection subject cases => subject.binds name || casesBind cases
  | .raised failure cause => binds? name failure || binds? name cause
  | .attempt body handlers _ otherwise finally_ =>
    anyStatementBinds body || handlersBind handlers || anyStatementBinds otherwise ||
      anyStatementBinds finally_
  | .assertion condition message => condition.binds name || binds? name message
  | .imported names => names.any fun imported => imported.moduleName = name
  -- Where all names are imported, this one can be among them.
  | .importedFrom _ _ names =>
    names.isEmpty || names.any fun imported => imported.given.getD imported.name = name
  | .expression value => value.binds name
  | .globals _ | .nonlocals _ | .pass | .breaking | .continuing => false

def anyStatementBinds : List Stmt → Bool
  | [] => false
  | statement :: rest => statement.binds || anyStatementBinds rest

def casesBind : List Case → Bool
  | [] => false
  | .mk pattern guard body :: rest =>
    pattern.binds name || binds? name guard || anyStatementBinds body || casesBind rest

def handlersBind : List Handler → Bool
  | [] => false
  | .mk type own body :: rest =>
    binds? name type || own = some name || anyStatementBinds body || handlersBind rest

end

mutual

def Stmt.declares : Stmt → Bool
  | .globals names => names.contains name
  | .context _ _ body => anyDeclares body
  | .loop _ _ _ body otherwise | .whileLoop _ body otherwise | .choice _ body otherwise =>
    anyDeclares body || anyDeclares otherwise
  | .selection _ cases => casesDeclare cases
  | .attempt body handlers _ otherwise finally_ =>
    anyDeclares body || handlersDeclare handlers || anyDeclares otherwise || anyDeclares finally_
  | _ => false

def anyDeclares : List Stmt → Bool
  | [] => false
  | statement :: rest => statement.declares || anyDeclares rest

def casesDeclare : List Case → Bool
  | [] => false
  | .mk _ _ body :: rest => anyDeclares body || casesDeclare rest

def handlersDeclare : List Handler → Bool
  | [] => false
  | .mk _ _ body :: rest => anyDeclares body || handlersDeclare rest

end

mutual

/-- Whether a function or a class in a statement declares the name a global one and binds it. -/
def Stmt.bindsGlobally : Stmt → Bool
  | .function _ _ _ _ body _ | .classDefinition _ _ body _ =>
    (anyDeclares name body && anyStatementBinds name body) || anyBindsGlobally body
  | .context _ _ body => anyBindsGlobally body
  | .loop _ _ _ body otherwise | .whileLoop _ body otherwise | .choice _ body otherwise =>
    anyBindsGlobally body || anyBindsGlobally otherwise
  | .selection _ cases => casesBindGlobally cases
  | .attempt body handlers _ otherwise finally_ =>
    anyBindsGlobally body || handlersBindGlobally handlers || anyBindsGlobally otherwise ||
      anyBindsGlobally finally_
  | _ => false

def anyBindsGlobally : List Stmt → Bool
  | [] => false
  | statement :: rest => statement.bindsGlobally || anyBindsGlobally rest

def casesBindGlobally : List Case → Bool
  | [] => false
  | .mk _ _ body :: rest => anyBindsGlobally body || casesBindGlobally rest

def handlersBindGlobally : List Handler → Bool
  | [] => false
  | .mk _ _ body :: rest => anyBindsGlobally body || handlersBindGlobally rest

end

end ControllerClient.Source
