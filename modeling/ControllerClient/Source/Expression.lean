import ControllerClient.Source.Lexer
import ControllerClient.Source.Literal
import ControllerClient.Source.Reader
import ControllerClient.Source.Target

/-!
Expressions. The readers of one level of nesting are built from the readers of
the level below: what stands inside brackets, behind a unary operator or behind
`else` is read by the level below, everything else on the level itself.
-/

namespace ControllerClient.Source

open Reader

/-- The readers that others are built from, and a bound for how many items one of them reads. -/
structure Level where
  fuel : Nat
  expression : Reader Expr
  disjunction : Reader Expr
  inversion : Reader Expr
  bitwiseOr : Reader Expr
  factor : Reader Expr
  primary : Reader Expr

namespace Level

def bottom : Level :=
  { fuel := 0
    expression := fun _ => none
    disjunction := fun _ => none
    inversion := fun _ => none
    bitwiseOr := fun _ => none
    factor := fun _ => none
    primary := fun _ => none }

/-! ### Expressions with stars, names and commas -/

def starExpression (level : Level) : Reader Expr
  | .mark .star :: rest => do
    let (value, rest) ← level.bitwiseOr rest
    some (.starred value, rest)
  | tokens => level.expression tokens

/-- One item alone stands for itself; several, or one with a comma, are a tuple. -/
def tupleOf : List Expr × Bool → Expr
  | ([item], false) => item
  | (items, _) => .tuple items

def starExpressions (level : Level) : Reader Expr := fun tokens => do
  let (items, tokens) ← listed level.fuel level.starExpression tokens
  some (tupleOf items, tokens)

def namedExpression (level : Level) : Reader Expr
  | .name identifier :: .mark .walrus :: rest => do
    let (value, rest) ← level.expression rest
    some (.named identifier.name value, rest)
  | tokens => do
    let (value, rest) ← level.expression tokens
    match rest with
    | .mark .walrus :: _ => none
    | _ => some (value, rest)

def starNamedExpression (level : Level) : Reader Expr
  | .mark .star :: rest => do
    let (value, rest) ← level.bitwiseOr rest
    some (.starred value, rest)
  | tokens => level.namedExpression tokens

def yielding (level : Level) : Reader Expr
  | .keyword .fromWord :: rest => do
    let (value, rest) ← level.expression rest
    some (.yieldedFrom value, rest)
  | tokens => do
    let (value, rest) ← optionally level.starExpressions tokens
    some (.yielded value, rest)

def assignedValue (level : Level) : Reader Expr
  | .keyword .yieldWord :: rest => level.yielding rest
  | tokens => level.starExpressions tokens

/-! ### Targets and comprehensions -/

def target (level : Level) : Reader Expr := fun tokens => do
  let (item, rest) ← match tokens with
    | .mark .star :: rest => do
      let (item, rest) ← level.primary rest
      some (Expr.starred item, rest)
    | _ => level.primary tokens
  if item.isAssignable then some (item, rest) else none

def targets (level : Level) : Reader Expr := fun tokens => do
  let (items, tokens) ← listed level.fuel level.target tokens
  some (tupleOf items, tokens)

def clauseBody (level : Level) (isAsync : Bool) : Reader Clause := fun tokens => do
  let (_, tokens) ← word .forWord tokens
  let (target, tokens) ← level.targets tokens
  let (_, tokens) ← word .inWord tokens
  let (source, tokens) ← level.disjunction tokens
  let (conditions, tokens) ← many level.fuel (afterWord .ifWord level.disjunction) tokens
  some (.mk isAsync target source conditions, tokens)

def clause (level : Level) : Reader Clause
  | .keyword .asyncWord :: rest => level.clauseBody true rest
  | tokens => level.clauseBody false tokens

def clauses (level : Level) : Reader (List Clause) := fun tokens => do
  let (first, tokens) ← level.clause tokens
  let (later, tokens) ← many level.fuel level.clause tokens
  some (first :: later, tokens)

def beginsClause : List Token → Bool
  | .keyword .forWord :: _ | .keyword .asyncWord :: _ => true
  | _ => false

def closedClauses (level : Level) (closing : Mark) : Reader (List Clause) := fun tokens => do
  let (clauses, tokens) ← level.clauses tokens
  let (_, tokens) ← mark closing tokens
  some (clauses, tokens)

/-! ### Brackets and arguments -/

/-- What follows an item and a comma inside brackets, up to the closing bracket. -/
def itemsUntil (level : Level) (closing : Mark) : Reader (List Expr) := fun tokens =>
  match mark closing tokens with
  | some (_, tokens) => some ([], tokens)
  | none => do
    let ((items, _), tokens) ← listed level.fuel level.starNamedExpression tokens
    let (_, tokens) ← mark closing tokens
    some (items, tokens)

/-- What follows an opening parenthesis: a tuple, a generator, or one expression. -/
def parenthesised (level : Level) : Reader Expr
  | .mark .rightParenthesis :: rest => some (.tuple [], rest)
  | .keyword .yieldWord :: rest => do
    let (value, rest) ← level.yielding rest
    let (_, rest) ← mark .rightParenthesis rest
    some (value, rest)
  | tokens => do
    let starred := tokens.head? = some (.mark .star)
    let (first, tokens) ← level.starNamedExpression tokens
    match tokens with
    | .mark .comma :: tokens =>
      let (later, tokens) ← level.itemsUntil .rightParenthesis tokens
      some (.tuple (first :: later), tokens)
    | .mark .rightParenthesis :: tokens => if starred then none else some (first, tokens)
    | _ =>
      if starred then none
      else
        let (clauses, tokens) ← level.closedClauses .rightParenthesis tokens
        some (.comprehension .generator first clauses, tokens)

def bracketed (level : Level) : Reader Expr
  | .mark .rightBracket :: rest => some (.list [], rest)
  | tokens => do
    let starred := tokens.head? = some (.mark .star)
    let (first, tokens) ← level.starNamedExpression tokens
    match tokens with
    | .mark .comma :: tokens =>
      let (later, tokens) ← level.itemsUntil .rightBracket tokens
      some (.list (first :: later), tokens)
    | .mark .rightBracket :: tokens => some (.list [first], tokens)
    | _ =>
      if starred then none
      else
        let (clauses, tokens) ← level.closedClauses .rightBracket tokens
        some (.comprehension .list first clauses, tokens)

def entry (level : Level) : Reader (Option Expr × Expr)
  | .mark .doubleStar :: rest => do
    let (value, rest) ← level.bitwiseOr rest
    some ((none, value), rest)
  | tokens => do
    let (key, tokens) ← level.expression tokens
    let (_, tokens) ← mark .colon tokens
    let (value, tokens) ← level.expression tokens
    some ((some key, value), tokens)

def entriesUntil (level : Level) : Reader (List (Option Expr × Expr))
  | .mark .rightBrace :: rest => some ([], rest)
  | tokens => do
    let (_, tokens) ← mark .comma tokens
    match tokens with
    | .mark .rightBrace :: rest => some ([], rest)
    | _ =>
      let ((entries, _), tokens) ← listed level.fuel level.entry tokens
      let (_, tokens) ← mark .rightBrace tokens
      some (entries, tokens)

def setAfter (level : Level) (first : Expr) (starred : Bool) : Reader Expr
  | .mark .comma :: tokens => do
    let (later, tokens) ← level.itemsUntil .rightBrace tokens
    some (.set (first :: later), tokens)
  | .mark .rightBrace :: tokens => some (.set [first], tokens)
  | tokens =>
    if starred then none
    else do
      let (clauses, tokens) ← level.closedClauses .rightBrace tokens
      some (.comprehension .set first clauses, tokens)

def dictAfter (level : Level) (key value : Expr) : Reader Expr := fun tokens =>
  if beginsClause tokens then do
    let (clauses, tokens) ← level.closedClauses .rightBrace tokens
    some (.dictComprehension key value clauses, tokens)
  else do
    let (later, tokens) ← level.entriesUntil tokens
    some (.dict ((some key, value) :: later), tokens)

def braced (level : Level) : Reader Expr
  | .mark .rightBrace :: rest => some (.dict [], rest)
  | .mark .doubleStar :: rest => do
    let (spread, rest) ← level.bitwiseOr rest
    let (later, rest) ← level.entriesUntil rest
    some (.dict ((none, spread) :: later), rest)
  | .mark .star :: rest => do
    let (first, rest) ← level.bitwiseOr rest
    level.setAfter (.starred first) true rest
  | .name identifier :: .mark .walrus :: rest => do
    let (value, rest) ← level.expression rest
    level.setAfter (.named identifier.name value) false rest
  | tokens => do
    let (first, tokens) ← level.expression tokens
    match tokens with
    | .mark .colon :: tokens =>
      let (value, tokens) ← level.expression tokens
      level.dictAfter first value tokens
    | _ => level.setAfter first false tokens

/-- How far the arguments of a call have come: plain ones, then named ones, then dictionaries. -/
inductive Phase where
  | plain | named | spread
deriving DecidableEq, Repr

def argument (level : Level) (phase : Phase) : Reader (Argument × Phase)
  | .mark .doubleStar :: rest => do
    let (value, rest) ← level.expression rest
    some ((.doubleStarred value, .spread), rest)
  | .mark .star :: rest =>
    if phase = .spread then none
    else do
      let (value, rest) ← level.expression rest
      some ((.starred value, phase), rest)
  | .name identifier :: .mark .equals :: rest => do
    let (value, rest) ← level.expression rest
    some ((.keyword identifier.name value,
      if phase = .plain then .named else phase), rest)
  | tokens =>
    if phase = .plain then do
      let (value, rest) ← level.namedExpression tokens
      match rest with
      | .mark .equals :: _ => none
      | _ => some ((.positional value, .plain), rest)
    else none

def laterArguments (level : Level) (fuel : Nat) (phase : Phase) : Reader (List Argument) :=
  fun tokens =>
    match fuel, tokens with
    | fuel + 1, .mark .comma :: tokens =>
      match level.argument phase tokens with
      | none => some ([], tokens)
      | some ((argument, phase), tokens) => do
        let (later, tokens) ← laterArguments level fuel phase tokens
        some (argument :: later, tokens)
    | _, _ => some ([], tokens)

def arguments (level : Level) : Reader (List Argument)
  | .mark .rightParenthesis :: rest => some ([], rest)
  | tokens => do
    let ((first, phase), tokens) ← level.argument .plain tokens
    let (later, tokens) ← level.laterArguments level.fuel phase tokens
    let (_, tokens) ← mark .rightParenthesis tokens
    some (first :: later, tokens)

def callArguments (level : Level) : Reader (List Argument)
  | .mark .rightParenthesis :: rest => some ([], rest)
  | tokens => do
    let ((first, phase), tokens) ← level.argument .plain tokens
    match first, beginsClause tokens with
    | .positional item, true =>
      let (clauses, tokens) ← level.closedClauses .rightParenthesis tokens
      some ([.positional (.comprehension .generator item clauses)], tokens)
    | _, _ =>
      let (later, tokens) ← level.laterArguments level.fuel phase tokens
      let (_, tokens) ← mark .rightParenthesis tokens
      some (first :: later, tokens)

/-! ### Subscripts and parameters -/

def sliceAfter (level : Level) (lower : Option Expr) : Reader Expr := fun tokens => do
  let (upper, tokens) ← optionally level.expression tokens
  match tokens with
  | .mark .colon :: tokens =>
    let (step, tokens) ← optionally level.expression tokens
    some (.slice lower upper step, tokens)
  | _ => some (.slice lower upper none, tokens)

def index (level : Level) : Reader Expr
  | .mark .colon :: rest => level.sliceAfter none rest
  | .mark .star :: rest => do
    let (value, rest) ← level.expression rest
    some (.starred value, rest)
  | .name identifier :: .mark .walrus :: rest => do
    let (value, rest) ← level.expression rest
    some (.named identifier.name value, rest)
  | tokens => do
    let (value, tokens) ← level.expression tokens
    match tokens with
    | .mark .colon :: tokens => level.sliceAfter (some value) tokens
    | _ => some (value, tokens)

def subscripts (level : Level) : Reader Expr := fun tokens => do
  let ((items, ended), tokens) ← listed level.fuel level.index tokens
  let (_, tokens) ← mark .rightBracket tokens
  match items with
  | [.starred value] => some (.tuple [.starred value], tokens)
  | _ => some (tupleOf (items, ended), tokens)

structure ParameterState where
  positionalOnly : List Parameter
  positional : List Parameter
  rest : Option Parameter
  keywordOnly : List Parameter
  keywordRest : Option Parameter
  /-- Whether a slash, a star, a parameter with a default have been met. -/
  slashed : Bool
  starred : Bool
  defaulted : Bool

def ParameterState.empty : ParameterState := ⟨[], [], none, [], none, false, false, false⟩

/-- The parameters of a state; behind a star alone there has to be one more. -/
def ParameterState.parameters? (state : ParameterState) : Option Parameters :=
  if state.starred && state.rest.isNone && state.keywordOnly.isEmpty then none
  else some (.mk state.positionalOnly state.positional state.rest state.keywordOnly
    state.keywordRest)

def noteOf (annotated : Bool) (reader : Reader Expr) : Reader (Option Expr) := fun tokens =>
  match annotated, tokens with
  | true, .mark .colon :: rest => do
    let (value, rest) ← reader rest
    some (some value, rest)
  | _, _ => some (none, tokens)

def defaultValue (level : Level) : Reader (Option Expr)
  | .mark .equals :: rest => do
    let (value, rest) ← level.expression rest
    some (some value, rest)
  | tokens => some (none, tokens)

def plainParameter (level : Level) (annotated : Bool) (state : ParameterState) :
    Reader ParameterState := fun tokens => do
  let (name, tokens) ← name tokens
  let (note, tokens) ← noteOf annotated level.expression tokens
  let (default, tokens) ← level.defaultValue tokens
  let parameter := Parameter.mk name note default
  if state.starred then
    some ({ state with keywordOnly := state.keywordOnly ++ [parameter] }, tokens)
  else if state.defaulted && default.isNone then none
  else some ({ state with
    positional := state.positional ++ [parameter]
    defaulted := state.defaulted || default.isSome }, tokens)

def parameterItem (level : Level) (annotated : Bool) (state : ParameterState) :
    Reader ParameterState := fun tokens =>
  if state.keywordRest.isSome then none
  else match tokens with
    | .mark .slash :: rest =>
      if state.slashed || state.starred || state.positional.isEmpty then none
      else some ({ state with
        positionalOnly := state.positional, positional := [], slashed := true }, rest)
    | .mark .star :: .mark .comma :: rest =>
      if state.starred then none
      else some ({ state with starred := true }, .mark .comma :: rest)
    | .mark .star :: rest =>
      if state.starred then none
      else do
        let (name, rest) ← name rest
        let (note, rest) ← noteOf annotated level.starExpression rest
        some ({ state with starred := true, rest := some (.mk name note none) }, rest)
    | .mark .doubleStar :: rest => do
      if state.starred && state.rest.isNone && state.keywordOnly.isEmpty then none
      else
        let (name, rest) ← name rest
        let (note, rest) ← noteOf annotated level.expression rest
        some ({ state with keywordRest := some (.mk name note none) }, rest)
    | _ => level.plainParameter annotated state tokens

def parametersFrom (level : Level) (annotated : Bool) (closing : Mark) (fuel : Nat)
    (state : ParameterState) : Reader Parameters := fun tokens =>
  if tokens.head? = some (.mark closing) then do some (← state.parameters?, tokens)
  else match fuel with
    | 0 => none
    | fuel + 1 => do
      let (state, tokens) ← level.parameterItem annotated state tokens
      match tokens with
      | .mark .comma :: tokens => parametersFrom level annotated closing fuel state tokens
      | _ =>
        if tokens.head? = some (.mark closing) then do some (← state.parameters?, tokens)
        else none

def parameters (level : Level) (annotated : Bool) (closing : Mark) : Reader Parameters :=
  level.parametersFrom annotated closing level.fuel .empty

/-! ### Formatted literals -/

/-- How deep fields of formatted literals may lie inside one another. -/
def fieldLimit : Nat := 2

/--
The literal part at the beginning of a formatted literal, where it ends, and whether a
doubled brace ended it.
-/
structure LiteralRun where
  body : Text
  rest : Text
  doubled : Bool

def LiteralRun.cons (characters : Text) (run : LiteralRun) : LiteralRun :=
  { run with body := characters ++ run.body }

/--
What a brace means: outside of formats a doubled one stands for itself, and a closing one
has to be doubled.
-/
def atBrace (outermost : Bool) (brace : Char) (rest : Text) : Option LiteralRun :=
  if outermost then
    if rest.head? = some brace then some ⟨[brace], rest.tail, true⟩
    else if brace = '\x7d' then none
    else some ⟨[], brace :: rest, false⟩
  else some ⟨[], brace :: rest, false⟩

def isBrace (c : Char) : Bool := c = '\x7b' || c = '\x7d'

def literalRun (fuel : Nat) (raw outermost : Bool) (text : Text) : Option LiteralRun :=
  match fuel, text with
  | _, [] => some ⟨[], [], false⟩
  | 0, _ => none
  | fuel + 1, c :: rest =>
    if isBrace c then atBrace outermost c rest
    else if c = '\\' && !raw then
      match rest with
      | [] => some ⟨['\\'], [], false⟩
      | 'N' :: behind => do
        let (name, behind) ← Literal.bracedName? behind
        let run ← literalRun fuel raw outermost behind
        some (run.cons ('\\' :: 'N' :: '\x7b' :: name ++ ['\x7d']))
      | d :: behind =>
        if isBrace d then (atBrace outermost d behind).map (LiteralRun.cons ['\\'])
        else (literalRun fuel raw outermost behind).map (LiteralRun.cons ['\\', d])
    else (literalRun fuel raw outermost rest).map (LiteralRun.cons [c])

/-- Where the scan of a field stands: the quotes and the brackets that are open. -/
structure FieldState where
  quote : Option (Char × Bool)
  brackets : List Char

def closingBracket? (c : Char) : Option Char :=
  match c with
  | '(' => some ')'
  | '[' => some ']'
  | '\x7b' => some '\x7d'
  | _ => none

def isClosingBracket (c : Char) : Bool := c = ')' || c = ']' || c = '\x7d'

def endsField (c : Char) : Bool := c = '!' || c = ':' || c = '=' || c = '\x7d'

/--
The expression of a field and what follows it, which begins with the character
that ends it. Neither a backslash nor a number sign may stand in the expression.
-/
def fieldText (fuel : Nat) (state : FieldState) (text : Text) : Option (Text × Text) :=
  match fuel, text with
  | 0, _ | _, [] => none
  | fuel + 1, c :: rest =>
    let further (count : Nat) (state : FieldState) : Option (Text × Text) :=
      (fieldText fuel state ((c :: rest).drop count)).map fun (field, behind) =>
        ((c :: rest).take count ++ field, behind)
    let tripled := rest.take 2 = [c, c]
    if c = '\\' then none
    else match state.quote with
      | some (quote, long) =>
        if c != quote then further 1 state
        else if !long then further 1 { state with quote := none }
        else if tripled then further 3 { state with quote := none }
        else further 1 state
      | none =>
        if c = '\'' ∨ c = '"' then
          further (if tripled then 3 else 1) { state with quote := some (c, tripled) }
        else match closingBracket? c with
          | some closing =>
            if Lexer.bracketLimit ≤ state.brackets.length then none
            else further 1 { state with brackets := closing :: state.brackets }
          | none =>
            if c = '#' then none
            else if state.brackets.isEmpty && rest.head? = some '='
                && (c = '!' || c = '=' || c = '<' || c = '>') then further 2 state
            else if state.brackets.isEmpty && endsField c then some ([], c :: rest)
            else if isClosingBracket c then
              match state.brackets with
              | expected :: outer =>
                if expected = c then further 1 { state with brackets := outer } else none
              | [] => none
            else further 1 state

def isFieldBlank (c : Char) : Bool := c = ' ' || c = '\t' || c = '\n' || c = '\x0c'

def fieldExpression (level : Level) (text : Text) : Option Expr :=
  if text.all isFieldBlank then none
  else do
    let tokens ← Lexer.tokens? ('(' :: text ++ [')'])
    let (value, _) ← level.starExpressions tokens
    some value

def isSpace (c : Char) : Bool := c = ' ' || ('\t' ≤ c && c ≤ '\r')

def conversion? : Text → Option (Option Char × Text)
  | '!' :: c :: rest =>
    if c = 's' ∨ c = 'r' ∨ c = 'a' then some (some c, rest) else none
  | '!' :: [] => none
  | rest => some (none, rest)

def selfDescription (field : Text) : Text → Option Text × Text
  | '=' :: rest =>
    (some (field ++ '=' :: rest.takeWhile isSpace), rest.dropWhile isSpace)
  | rest => (none, rest)

/--
The parts of a formatted literal, and what follows them: nothing, or the brace that ends a
format.
-/
def formatParts (level : Level) (fuel : Nat) (raw : Bool) (depth : Nat) (text : Text) :
    Option (List FormatPart × Text) :=
  match fuel with
  | 0 => none
  | fuel + 1 => do
    let run ← literalRun text.length raw (depth == 0) text
    let content ← Literal.text? raw run.body
    let literal := if content.isEmpty then [] else [FormatPart.literal content]
    if run.doubled then
      let (later, rest) ← formatParts level fuel raw depth run.rest
      some (literal ++ later, rest)
    else match run.rest with
      | '\x7b' :: inside =>
        if fieldLimit ≤ depth then none
        else
          let (field, rest) ← fieldText inside.length ⟨none, []⟩ inside
          let value ← level.fieldExpression field
          let (description, rest) := selfDescription field rest
          let (conversion, rest) ← conversion? rest
          let (format, rest) ← match rest with
            | ':' :: rest => do
              let (format, rest) ← formatParts level fuel raw (depth + 1) rest
              some (some format, rest)
            | _ => some (none, rest)
          match rest with
          | '\x7d' :: rest =>
            let shown := if description.isSome && conversion.isNone && format.isNone then some 'r'
              else conversion
            let described := match description with
              | some text => [FormatPart.literal text]
              | none => []
            let (later, rest) ← formatParts level fuel raw depth rest
            some (literal ++ described ++ .field value shown format :: later, rest)
          | _ => none
      | rest => some (literal, rest)

def literalParts (level : Level) (literal : StringLiteral) : Option (List FormatPart) :=
  if literal.kind.formatted then do
    let (parts, rest) ←
      level.formatParts (literal.body.length + 1) literal.kind.raw 0 literal.body
    if rest.isEmpty then some parts else none
  else do
    let text ← Literal.text? literal.kind.raw literal.body
    some (if text.isEmpty then [] else [.literal text])

def joinedLiterals (level : Level) (literals : List StringLiteral) : Option Expr :=
  if literals.all (·.kind.bytes) then do
    let octets ← literals.mapM fun literal => Literal.octets? literal.kind.raw literal.body
    some (.constant (.octets octets.flatten))
  else if literals.any (·.kind.bytes) then none
  else if literals.any (·.kind.formatted) then do
    let parts ← literals.mapM level.literalParts
    some (.formatted parts.flatten)
  else do
    let texts ← literals.mapM fun literal => Literal.text? literal.kind.raw literal.body
    some (.constant (.text texts.flatten))

def stringLiteral : Reader StringLiteral
  | .string literal :: rest => some (literal, rest)
  | _ => none

def strings (level : Level) : Reader Expr := fun tokens => do
  let (first, tokens) ← stringLiteral tokens
  let (later, tokens) ← many level.fuel stringLiteral tokens
  some (← level.joinedLiterals (first :: later), tokens)

/-! ### Atoms and what follows them -/

def atom (inner : Level) : Reader Expr
  | .name identifier :: rest => some (.name identifier.name, rest)
  | .keyword .trueWord :: rest => some (.constant (.bool true), rest)
  | .keyword .falseWord :: rest => some (.constant (.bool false), rest)
  | .keyword .noneWord :: rest => some (.constant .none, rest)
  | .number value :: rest => some (.constant (.number value), rest)
  | .mark .ellipsis :: rest => some (.constant .ellipsis, rest)
  | .mark .leftParenthesis :: rest => inner.parenthesised rest
  | .mark .leftBracket :: rest => inner.bracketed rest
  | .mark .leftBrace :: rest => inner.braced rest
  | tokens => inner.strings tokens

def trailer (inner : Level) (owner : Expr) : Reader Expr
  | .mark .dot :: .name member :: rest => some (.member owner member.name, rest)
  | .mark .leftParenthesis :: rest => do
    let (arguments, rest) ← inner.callArguments rest
    some (.call owner arguments, rest)
  | .mark .leftBracket :: rest => do
    let (index, rest) ← inner.subscripts rest
    some (.subscript owner index, rest)
  | _ => none

def trailers (inner : Level) (fuel : Nat) (owner : Expr) : Reader Expr := fun tokens =>
  match fuel with
  | 0 => some (owner, tokens)
  | fuel + 1 =>
    match inner.trailer owner tokens with
    | some (owner, tokens) => trailers inner fuel owner tokens
    | none => some (owner, tokens)

def primaryAt (inner : Level) : Reader Expr := fun tokens => do
  let (first, tokens) ← inner.atom tokens
  inner.trailers (inner.fuel + 1) first tokens

/-! ### Operators and levels -/

def awaitedAt (inner : Level) : Reader Expr
  | .keyword .awaitWord :: rest => do
    let (value, rest) ← inner.primaryAt rest
    some (.awaited value, rest)
  | tokens => inner.primaryAt tokens

def powerAt (inner : Level) : Reader Expr := fun tokens => do
  let (base, tokens) ← inner.awaitedAt tokens
  match tokens with
  | .mark .doubleStar :: rest =>
    match inner.factor rest with
    | some (exponent, rest) => some (.binary .power base exponent, rest)
    | none => some (base, tokens)
  | _ => some (base, tokens)

def unaryMark? : Token → Option UnaryOperator
  | .mark .plus => some .plus
  | .mark .minus => some .minus
  | .mark .tilde => some .invert
  | _ => none

def factorAt (inner : Level) : Reader Expr := fun tokens =>
  match tokens with
  | first :: rest =>
    match unaryMark? first with
    | some operator => do
      let (operand, rest) ← inner.factor rest
      some (.unary operator operand, rest)
    | none => inner.powerAt tokens
  | [] => none

/-- Operands with operators between them, grouped from the left. -/
def chain (operator? : Token → Option BinaryOperator) (operand : Reader Expr) (fuel : Nat)
    (left : Expr) : Reader Expr := fun tokens =>
  match fuel, tokens with
  | fuel + 1, first :: rest =>
    match operator? first with
    | some operator =>
      match operand rest with
      | some (right, rest) => chain operator? operand fuel (.binary operator left right) rest
      | none => some (left, tokens)
    | none => some (left, tokens)
  | _, _ => some (left, tokens)

def chained (fuel : Nat) (operator? : Token → Option BinaryOperator) (operand : Reader Expr) :
    Reader Expr := fun tokens => do
  let (first, tokens) ← operand tokens
  chain operator? operand fuel first tokens

def termMark? : Token → Option BinaryOperator
  | .mark .star => some .multiply
  | .mark .slash => some .divide
  | .mark .doubleSlash => some .divideWhole
  | .mark .percent => some .remainder
  | .mark .atSign => some .multiplyMatrices
  | _ => none

def sumMark? : Token → Option BinaryOperator
  | .mark .plus => some .add
  | .mark .minus => some .subtract
  | _ => none

def shiftMark? : Token → Option BinaryOperator
  | .mark .doubleLess => some .shiftLeft
  | .mark .doubleGreater => some .shiftRight
  | _ => none

def andMark? : Token → Option BinaryOperator
  | .mark .ampersand => some .bitAnd
  | _ => none

def xorMark? : Token → Option BinaryOperator
  | .mark .caret => some .bitXor
  | _ => none

def orMark? : Token → Option BinaryOperator
  | .mark .bar => some .bitOr
  | _ => none

def termAt (inner : Level) : Reader Expr := chained (inner.fuel + 1) termMark? inner.factorAt

def sumAt (inner : Level) : Reader Expr := chained (inner.fuel + 1) sumMark? inner.termAt

def shiftAt (inner : Level) : Reader Expr := chained (inner.fuel + 1) shiftMark? inner.sumAt

def bitwiseAndAt (inner : Level) : Reader Expr := chained (inner.fuel + 1) andMark? inner.shiftAt

def bitwiseXorAt (inner : Level) : Reader Expr :=
  chained (inner.fuel + 1) xorMark? inner.bitwiseAndAt

def bitwiseOrAt (inner : Level) : Reader Expr :=
  chained (inner.fuel + 1) orMark? inner.bitwiseXorAt

def comparisonMark : Reader Comparison
  | .mark .doubleEqual :: rest => some (.equal, rest)
  | .mark .notEqual :: rest => some (.notEqual, rest)
  | .mark .lessEqual :: rest => some (.lessEqual, rest)
  | .mark .less :: rest => some (.less, rest)
  | .mark .greaterEqual :: rest => some (.greaterEqual, rest)
  | .mark .greater :: rest => some (.greater, rest)
  | .keyword .notWord :: .keyword .inWord :: rest => some (.notMember, rest)
  | .keyword .inWord :: rest => some (.member, rest)
  | .keyword .isWord :: .keyword .notWord :: rest => some (.notSame, rest)
  | .keyword .isWord :: rest => some (.same, rest)
  | _ => none

def compared (operand : Reader Expr) : Reader (Comparison × Expr) := fun tokens => do
  let (comparison, tokens) ← comparisonMark tokens
  let (right, tokens) ← operand tokens
  some ((comparison, right), tokens)

def comparisonAt (inner : Level) : Reader Expr := fun tokens => do
  let (first, tokens) ← inner.bitwiseOrAt tokens
  let (later, tokens) ← many (inner.fuel + 1) (compared inner.bitwiseOrAt) tokens
  some (if later.isEmpty then first else .comparison first later, tokens)

def inversionAt (inner : Level) : Reader Expr
  | .keyword .notWord :: rest => do
    let (operand, rest) ← inner.inversion rest
    some (.unary .negate operand, rest)
  | tokens => inner.comparisonAt tokens

def joinedByWord (fuel : Nat) (keyword : Keyword) (operator : BooleanOperator)
    (operand : Reader Expr) : Reader Expr := fun tokens => do
  let (first, tokens) ← operand tokens
  let (later, tokens) ← many fuel (afterWord keyword operand) tokens
  some (if later.isEmpty then first else .boolean operator (first :: later), tokens)

def conjunctionAt (inner : Level) : Reader Expr :=
  joinedByWord (inner.fuel + 1) .andWord .conjunction inner.inversionAt

def disjunctionAt (inner : Level) : Reader Expr :=
  joinedByWord (inner.fuel + 1) .orWord .disjunction inner.conjunctionAt

def alternative (inner : Level) : Reader (Expr × Expr) := fun tokens => do
  let (_, tokens) ← word .ifWord tokens
  let (condition, tokens) ← inner.disjunctionAt tokens
  let (_, tokens) ← word .elseWord tokens
  let (otherwise, tokens) ← inner.expression tokens
  some ((condition, otherwise), tokens)

def expressionAt (inner : Level) : Reader Expr
  | .keyword .lambdaWord :: rest => do
    let (parameters, rest) ← inner.parameters false .colon rest
    let (_, rest) ← mark .colon rest
    let (body, rest) ← inner.expression rest
    some (.lambda parameters body, rest)
  | tokens => do
    let (value, tokens) ← inner.disjunctionAt tokens
    match inner.alternative tokens with
    | some ((condition, otherwise), tokens) =>
      some (.conditional condition value otherwise, tokens)
    | none => some (value, tokens)

def next (inner : Level) : Level :=
  { fuel := inner.fuel + 1
    expression := inner.expressionAt
    disjunction := inner.disjunctionAt
    inversion := inner.inversionAt
    bitwiseOr := inner.bitwiseOrAt
    factor := inner.factorAt
    primary := inner.primaryAt }

/-- The level that understands a given depth of nesting. -/
def ofDepth : Nat → Level
  | 0 => bottom
  | depth + 1 => next (ofDepth depth)

end Level

end ControllerClient.Source
