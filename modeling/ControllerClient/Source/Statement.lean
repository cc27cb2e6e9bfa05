import ControllerClient.Source.Descent
import ControllerClient.Source.Height
import ControllerClient.Source.Pattern
import ControllerClient.Text.Encoding

/-!
Statements. Blocks nest as brackets do, so that the readers of compound
statements are built from the reader of blocks one level below. Each of them
reads on behind the word that its statement begins with.
-/

namespace ControllerClient.Source

open Reader

structure BlockLevel where
  fuel : Nat
  block : Reader (List Stmt)
  expressions : Level
  patterns : PatternLevel

namespace BlockLevel

/-! ### Simple statements -/

def annotatedValue (e : Level) : Reader (Option Expr) := fun tokens =>
  match tokens with
  | .mark .equals :: rest => do
    let (value, rest) ← e.assignedValue rest
    some (some value, rest)
  | _ => some (none, tokens)

/--
The values behind the signs of an assignment; the last is the value, the others are targets
too.
-/
def assignedValues (e : Level) (fuel : Nat) : Reader (List Expr) := fun tokens =>
  match fuel, tokens with
  | fuel + 1, .mark .equals :: rest => do
    let (value, rest) ← e.assignedValue rest
    let (later, rest) ← assignedValues e fuel rest
    some (value :: later, rest)
  | _, _ => some ([], tokens)

def assignment? (values : List Expr) : Option Stmt := do
  let value ← values.getLast?
  let targets := values.dropLast
  if targets.all Expr.isAssignable then some (.assigned targets value) else none

/--
An expression, or what it is the beginning of: an assignment, a change in place, an
annotation.
-/
def expressionStatement (e : Level) : Reader Stmt := fun tokens => do
  let (first, tokens) ← e.starExpressions tokens
  match tokens with
  | .mark .equals :: _ => do
    let (values, tokens) ← assignedValues e e.fuel tokens
    some (← assignment? (first :: values), tokens)
  | .mark (.becomes operator) :: rest =>
    if first.isPlace then do
      let (value, rest) ← e.assignedValue rest
      some (.augmented first operator value, rest)
    else none
  | .mark .colon :: rest =>
    if first.isPlace then do
      let (note, rest) ← e.expression rest
      let (value, rest) ← annotatedValue e rest
      some (.annotated first note value, rest)
    else none
  | _ => some (.expression first, tokens)

def dottedEnd (fuel : Nat) (name : Text) : Reader Text := fun tokens =>
  match fuel, tokens with
  | fuel + 1, .mark .dot :: .name part :: rest =>
    dottedEnd fuel (name ++ '.' :: part.name) rest
  | _, _ => some (name, tokens)

def dottedName (fuel : Nat) : Reader Text := fun tokens => do
  let (name, tokens) ← name tokens
  dottedEnd fuel name tokens

def given : Reader (Option Text) := fun tokens =>
  match tokens with
  | .keyword .asWord :: rest => do
    let (name, rest) ← name rest
    some (some name, rest)
  | _ => some (none, tokens)

def importedModule (fuel : Nat) : Reader Imported := fun tokens => do
  let (name, tokens) ← dottedName fuel tokens
  let (given, tokens) ← given tokens
  some (⟨name, given⟩, tokens)

def importedName : Reader Imported := fun tokens => do
  let (name, tokens) ← name tokens
  let (given, tokens) ← given tokens
  some (⟨name, given⟩, tokens)

def packageLevel (fuel : Nat) (count : Nat) (tokens : List Token) : Nat × List Token :=
  match fuel, tokens with
  | fuel + 1, .mark .dot :: rest => packageLevel fuel (count + 1) rest
  | fuel + 1, .mark .ellipsis :: rest => packageLevel fuel (count + 3) rest
  | _, _ => (count, tokens)

/-- The names that are imported from a module: none stands for all. -/
def importedNames (fuel : Nat) : Reader (List Imported)
  | .mark .star :: rest => some ([], rest)
  | .mark .leftParenthesis :: rest => do
    let ((names, _), rest) ← listed fuel importedName rest
    let (_, rest) ← mark .rightParenthesis rest
    some (names, rest)
  | tokens => do
    let ((names, ended), tokens) ← listed fuel importedName tokens
    if ended then none else some (names, tokens)

def importFrom (fuel : Nat) : Reader Stmt := fun tokens => do
  let (level, tokens) := packageLevel fuel 0 tokens
  let (module, tokens) ←
    if 0 < level && tokens.head? = some (.keyword .importWord) then some ([], tokens)
    else dottedName fuel tokens
  let (_, tokens) ← word .importWord tokens
  let (names, tokens) ← importedNames fuel tokens
  some (.importedFrom level module names, tokens)

def raising (e : Level) : Reader Stmt := fun tokens =>
  match e.expression tokens with
  | none => some (.raised none none, tokens)
  | some (failure, tokens) => do
    let (cause, tokens) ← match tokens with
      | .keyword .fromWord :: rest => do
        let (cause, rest) ← e.expression rest
        some (some cause, rest)
      | _ => some (none, tokens)
    some (.raised (some failure) cause, tokens)

def asserting (e : Level) : Reader Stmt := fun tokens => do
  let (condition, tokens) ← e.expression tokens
  let (message, tokens) ← match tokens with
    | .mark .comma :: rest => do
      let (message, rest) ← e.expression rest
      some (some message, rest)
    | _ => some (none, tokens)
  some (.assertion condition message, tokens)

def deleting (e : Level) : Reader Stmt := fun tokens => do
  let ((targets, _), tokens) ← listed e.fuel e.primary tokens
  if targets.all Expr.isDeletable then some (.deleted targets, tokens) else none

def simpleStatement (e : Level) : Reader Stmt
  | .keyword .returnWord :: rest => do
    let (value, rest) ← optionally e.starExpressions rest
    some (.returned value, rest)
  | .keyword .importWord :: rest => do
    let (names, rest) ← separated e.fuel .comma (importedModule e.fuel) rest
    some (.imported names, rest)
  | .keyword .fromWord :: rest => importFrom e.fuel rest
  | .keyword .raiseWord :: rest => raising e rest
  | .keyword .passWord :: rest => some (.pass, rest)
  | .keyword .delWord :: rest => deleting e rest
  | .keyword .yieldWord :: rest => do
    let (value, rest) ← e.yielding rest
    some (.expression value, rest)
  | .keyword .assertWord :: rest => asserting e rest
  | .keyword .breakWord :: rest => some (.breaking, rest)
  | .keyword .continueWord :: rest => some (.continuing, rest)
  | .keyword .globalWord :: rest => do
    let (names, rest) ← separated e.fuel .comma name rest
    some (.globals names, rest)
  | .keyword .nonlocalWord :: rest => do
    let (names, rest) ← separated e.fuel .comma name rest
    some (.nonlocals names, rest)
  | tokens => expressionStatement e tokens

def line (e : Level) : Reader (List Stmt) := fun tokens => do
  let (statements, tokens) ← separated e.fuel .semicolon (simpleStatement e) tokens
  match tokens with
  | .mark .semicolon :: .newline :: rest => some (statements, rest)
  | .newline :: rest => some (statements, rest)
  | _ => none

/-! ### Compound statements -/

def body (level : BlockLevel) : Reader (List Stmt) := afterMark .colon level.block

def bodyAfter (level : BlockLevel) (keyword : Keyword) : Reader (List Stmt) := fun tokens =>
  match tokens with
  | .keyword first :: rest => if first = keyword then level.body rest else some ([], tokens)
  | _ => some ([], tokens)

def choosingWith (level : BlockLevel) (further : Reader Stmt) : Reader Stmt := fun tokens => do
  let (condition, tokens) ← level.expressions.namedExpression tokens
  let (body, tokens) ← level.body tokens
  match tokens with
  | .keyword .elifWord :: tokens => do
    let (otherwise, tokens) ← further tokens
    some (.choice condition body [otherwise], tokens)
  | _ => do
    let (otherwise, tokens) ← level.bodyAfter .elseWord tokens
    some (.choice condition body otherwise, tokens)

def choosing (level : BlockLevel) : Nat → Reader Stmt
  | 0 => fun _ => none
  | fuel + 1 => level.choosingWith (choosing level fuel)

def repeating (level : BlockLevel) : Reader Stmt := fun tokens => do
  let (condition, tokens) ← level.expressions.namedExpression tokens
  let (body, tokens) ← level.body tokens
  let (otherwise, tokens) ← level.bodyAfter .elseWord tokens
  some (.whileLoop condition body otherwise, tokens)

def looping (level : BlockLevel) (isAsync : Bool) : Reader Stmt := fun tokens => do
  let (target, tokens) ← level.expressions.targets tokens
  let (_, tokens) ← word .inWord tokens
  let (source, tokens) ← level.expressions.starExpressions tokens
  let (body, tokens) ← level.body tokens
  let (otherwise, tokens) ← level.bodyAfter .elseWord tokens
  some (.loop isAsync target source body otherwise, tokens)

def contextItem (e : Level) : Reader (Expr × Option Expr) := fun tokens => do
  let (value, tokens) ← e.expression tokens
  match tokens with
  | .keyword .asWord :: rest => do
    let (target, rest) ← e.target rest
    some ((value, some target), rest)
  | _ => some ((value, none), tokens)

def bracketedItems (e : Level) : Reader (List (Expr × Option Expr)) := fun tokens => do
  let (_, tokens) ← mark .leftParenthesis tokens
  let ((items, _), tokens) ← listed e.fuel (contextItem e) tokens
  let (_, tokens) ← mark .rightParenthesis tokens
  let (_, tokens) ← mark .colon tokens
  some (items, tokens)

def contextItems (e : Level) : Reader (List (Expr × Option Expr)) := fun tokens =>
  match bracketedItems e tokens with
  | some found => some found
  | none => do
    let (items, tokens) ← separated e.fuel .comma (contextItem e) tokens
    let (_, tokens) ← mark .colon tokens
    some (items, tokens)

def entering (level : BlockLevel) (isAsync : Bool) : Reader Stmt := fun tokens => do
  let (items, tokens) ← contextItems level.expressions tokens
  let (body, tokens) ← level.block tokens
  some (.context isAsync items body, tokens)

def handler (level : BlockLevel) (isGroup : Bool) : Reader Handler := fun tokens => do
  let (_, tokens) ← word .exceptWord tokens
  match tokens with
  | .mark .colon :: _ =>
    if isGroup then none
    else
      let (body, tokens) ← level.body tokens
      some (.mk none none body, tokens)
  | _ =>
    let (_, tokens) ← if isGroup then mark .star tokens else some ((), tokens)
    let (type, tokens) ← level.expressions.expression tokens
    let (name, tokens) ← given tokens
    let (body, tokens) ← level.body tokens
    some (.mk (some type) name body, tokens)

def beginsGroupHandler : List Token → Bool
  | .keyword .exceptWord :: .mark .star :: _ => true
  | _ => false

def attempting (level : BlockLevel) : Reader Stmt := fun tokens => do
  let (body, tokens) ← level.body tokens
  match tokens with
  | .keyword .finallyWord :: _ => do
    let (final, tokens) ← level.bodyAfter .finallyWord tokens
    some (.attempt body [] false [] final, tokens)
  | _ => do
    let isGroup := beginsGroupHandler tokens
    let (first, tokens) ← level.handler isGroup tokens
    let (later, tokens) ← many level.fuel (level.handler isGroup) tokens
    let (otherwise, tokens) ← level.bodyAfter .elseWord tokens
    let (final, tokens) ← level.bodyAfter .finallyWord tokens
    some (.attempt body (first :: later) isGroup otherwise final, tokens)

def resultNote (e : Level) : Reader (Option Expr) := fun tokens =>
  match tokens with
  | .mark .arrow :: rest => do
    let (value, rest) ← e.expression rest
    some (some value, rest)
  | _ => some (none, tokens)

def defining (level : BlockLevel) (isAsync : Bool) (decorators : List Expr) : Reader Stmt :=
  fun tokens => do
    let (name, tokens) ← name tokens
    let (_, tokens) ← mark .leftParenthesis tokens
    let (parameters, tokens) ← level.expressions.parameters true .rightParenthesis tokens
    let (_, tokens) ← mark .rightParenthesis tokens
    let (result, tokens) ← resultNote level.expressions tokens
    let (body, tokens) ← level.body tokens
    some (.function isAsync name parameters result body decorators, tokens)

def classArguments (e : Level) : Reader (List Argument) := fun tokens =>
  match tokens with
  | .mark .leftParenthesis :: rest => e.arguments rest
  | _ => some ([], tokens)

def definingClass (level : BlockLevel) (decorators : List Expr) : Reader Stmt := fun tokens => do
  let (name, tokens) ← name tokens
  let (arguments, tokens) ← classArguments level.expressions tokens
  let (body, tokens) ← level.body tokens
  some (.classDefinition name arguments body decorators, tokens)

def decorator (e : Level) : Reader Expr := fun tokens => do
  let (_, tokens) ← mark .atSign tokens
  let (value, tokens) ← e.namedExpression tokens
  let (_, tokens) ← expect .newline tokens
  some (value, tokens)

def decorated (level : BlockLevel) : Reader Stmt := fun tokens => do
  let (decorators, tokens) ← many level.expressions.fuel (decorator level.expressions) tokens
  match tokens with
  | .keyword .defWord :: rest => level.defining false decorators rest
  | .keyword .asyncWord :: .keyword .defWord :: rest => level.defining true decorators rest
  | .keyword .classWord :: rest => level.definingClass decorators rest
  | _ => none

/-- Whether a token is a name written in a given way. -/
def isSoftWord (word : String) : Token → Bool
  | .name identifier => identifier.spelling = word.toList
  | _ => false

def subject (e : Level) : Reader Expr := fun tokens => do
  let (items, tokens) ← listed e.fuel e.starNamedExpression tokens
  match items with
  | ([.starred _], false) => none
  | _ => some (Level.tupleOf items, tokens)

def case (level : BlockLevel) : Reader Case := fun tokens =>
  match tokens with
  | first :: tokens =>
    if isSoftWord "case" first then do
      let (pattern, tokens) ← level.patterns.ofCase tokens
      let (guard, tokens) ←
        optionally (afterWord .ifWord level.expressions.namedExpression) tokens
      let (body, tokens) ← level.body tokens
      some (.mk pattern guard body, tokens)
    else none
  | [] => none

def selecting (level : BlockLevel) : Reader Stmt := fun tokens => do
  let (subject, tokens) ← subject level.expressions tokens
  let (_, tokens) ← mark .colon tokens
  let (_, tokens) ← expect .newline tokens
  let (_, tokens) ← expect .indent tokens
  let (first, tokens) ← level.case tokens
  let (later, tokens) ← many level.fuel level.case tokens
  let (_, tokens) ← expect .dedent tokens
  some (.selection subject (first :: later), tokens)

/-- A selection, or a line in which its word is only a name. -/
def selectionOrLine (level : BlockLevel) : Reader (List Stmt) := fun tokens =>
  match tokens with
  | first :: rest =>
    if isSoftWord "match" first then
      match level.selecting rest with
      | some (statement, rest) => some ([statement], rest)
      | none => line level.expressions tokens
    else line level.expressions tokens
  | [] => none

/-! ### Blocks and whole texts -/

def single (reader : Reader Stmt) : Reader (List Stmt) := fun tokens => do
  let (statement, tokens) ← reader tokens
  some ([statement], tokens)

def statement (level : BlockLevel) : Reader (List Stmt)
  | .keyword .ifWord :: rest => single (level.choosing level.fuel) rest
  | .keyword .whileWord :: rest => single level.repeating rest
  | .keyword .forWord :: rest => single (level.looping false) rest
  | .keyword .withWord :: rest => single (level.entering false) rest
  | .keyword .tryWord :: rest => single level.attempting rest
  | .keyword .asyncWord :: .keyword .forWord :: rest => single (level.looping true) rest
  | .keyword .asyncWord :: .keyword .withWord :: rest => single (level.entering true) rest
  | .keyword .asyncWord :: rest => single level.decorated (.keyword .asyncWord :: rest)
  | .keyword .defWord :: rest => single level.decorated (.keyword .defWord :: rest)
  | .keyword .classWord :: rest => single level.decorated (.keyword .classWord :: rest)
  | .mark .atSign :: rest => single level.decorated (.mark .atSign :: rest)
  | tokens => level.selectionOrLine tokens

def statements (level : BlockLevel) : Reader (List Stmt) := fun tokens => do
  let (first, tokens) ← level.statement tokens
  let (later, tokens) ← many level.fuel level.statement tokens
  some (first ++ later.flatten, tokens)

def blockAt (inner : BlockLevel) : Reader (List Stmt)
  | .newline :: .indent :: tokens => do
    let (statements, tokens) ← inner.statements tokens
    let (_, tokens) ← expect .dedent tokens
    some (statements, tokens)
  | tokens => line inner.expressions tokens

def ofDepth (expressions : Level) (patterns : PatternLevel) : Nat → BlockLevel
  | 0 => ⟨0, fun _ => none, expressions, patterns⟩
  | depth + 1 =>
    let inner := ofDepth expressions patterns depth
    ⟨inner.fuel + 1, inner.blockAt, expressions, patterns⟩

end BlockLevel

/--
The statements that tokens make up; nothing may be left over. Nothing in the text nests
deeper than the text is long.
-/
def statements? (length : Nat) (tokens : List Token) : Option (List Stmt) := do
  let expressions := Level.ofDepth (length + 1)
  let patterns := PatternLevel.ofDepth expressions.strings (length + 1)
  let level := BlockLevel.ofDepth expressions patterns (tokens.length + 1)
  let (statements, rest) ← many level.fuel level.statement tokens
  if rest.isEmpty then some statements.flatten else none

/-- The statements of tokens, which must not go down too far nor reach too high. -/
def ofTokens (length : Nat) (tokens : List Token) : Except Failure (List Stmt) :=
  if Descent.limit < Descent.stepsOf tokens then .error .descendsTooFar
  else match statements? length tokens with
    | none => .error .malformedSource
    | some statements =>
      if heightLimit < statementsHeight statements then .error .nestedTooDeeply
      else .ok statements

def read (text : Text) : Except Failure (List Stmt) := do
  let _ ← Text.utf8 text
  if text.contains '\x00' then .error .nullInSource
  else match Lexer.tokens? text with
    | some tokens => ofTokens text.length tokens
    | none => .error .malformedSource

end ControllerClient.Source
