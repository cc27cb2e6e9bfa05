import ControllerClient.Source.Token

/-!
Source text as a tree: expressions, patterns and statements. Names stand in
their normal form, and brackets that only group are gone.
-/

namespace ControllerClient.Source

inductive Constant where
  | none
  | bool (b : Bool)
  | ellipsis
  | number (value : Number)
  | text (content : Text)
  | octets (content : List UInt8)
deriving DecidableEq, Repr

inductive UnaryOperator where
  | plus | minus | invert | negate
deriving DecidableEq, Repr

inductive Comparison where
  | equal | notEqual | less | lessEqual | greater | greaterEqual
  | same | notSame | member | notMember
deriving DecidableEq, Repr

inductive BooleanOperator where
  | conjunction | disjunction
deriving DecidableEq, Repr

inductive Collection where
  | list | set | generator
deriving DecidableEq, Repr

mutual

inductive Expr where
  | constant (value : Constant)
  /-- A string literal with fields in it. -/
  | formatted (parts : List FormatPart)
  | name (id : Text)
  | member (owner : Expr) (name : Text)
  | subscript (owner index : Expr)
  | call (callee : Expr) (arguments : List Argument)
  | starred (value : Expr)
  | unary (operator : UnaryOperator) (operand : Expr)
  | binary (operator : BinaryOperator) (left right : Expr)
  | boolean (operator : BooleanOperator) (operands : List Expr)
  | comparison (first : Expr) (later : List (Comparison × Expr))
  | conditional (condition ifTrue ifFalse : Expr)
  | lambda (parameters : Parameters) (body : Expr)
  | tuple (items : List Expr)
  | list (items : List Expr)
  | set (items : List Expr)
  /-- Entries without a key spread a dictionary. -/
  | dict (entries : List (Option Expr × Expr))
  | comprehension (collection : Collection) (item : Expr) (clauses : List Clause)
  | dictComprehension (key value : Expr) (clauses : List Clause)
  | named (target : Text) (value : Expr)
  | slice (lower upper step : Option Expr)
  | awaited (value : Expr)
  | yielded (value : Option Expr)
  | yieldedFrom (value : Expr)

inductive FormatPart where
  | literal (content : Text)
  | field (value : Expr) (conversion : Option Char) (format : Option (List FormatPart))

inductive Argument where
  | positional (value : Expr)
  | starred (value : Expr)
  | keyword (name : Text) (value : Expr)
  | doubleStarred (value : Expr)

inductive Clause where
  | mk (isAsync : Bool) (target source : Expr) (conditions : List Expr)

inductive Parameter where
  | mk (name : Text) (note default : Option Expr)

inductive Parameters where
  | mk (positionalOnly positional : List Parameter) (rest : Option Parameter)
      (keywordOnly : List Parameter) (keywordRest : Option Parameter)

end

inductive Pattern where
  | value (e : Expr)
  | wildcard
  | capture (name : Text)
  | aliased (pattern : Pattern) (name : Text)
  | alternatives (patterns : List Pattern)
  | sequence (patterns : List Pattern)
  /-- The rest of a sequence, under a name if it has one. -/
  | rest (name : Option Text)
  | mapping (entries : List (Expr × Pattern)) (rest : Option Text)
  | instance (type : Expr) (positional : List Pattern) (keyword : List (Text × Pattern))

structure Imported where
  name : Text
  given : Option Text
deriving DecidableEq, Repr

mutual

inductive Stmt where
  | function (isAsync : Bool) (name : Text) (parameters : Parameters) (result : Option Expr)
      (body : List Stmt) (decorators : List Expr)
  | classDefinition (name : Text) (arguments : List Argument) (body : List Stmt)
      (decorators : List Expr)
  | returned (value : Option Expr)
  | deleted (targets : List Expr)
  | assigned (targets : List Expr) (value : Expr)
  | augmented (target : Expr) (operator : BinaryOperator) (value : Expr)
  | annotated (target note : Expr) (value : Option Expr)
  | loop (isAsync : Bool) (target source : Expr) (body otherwise : List Stmt)
  | whileLoop (condition : Expr) (body otherwise : List Stmt)
  | choice (condition : Expr) (body otherwise : List Stmt)
  | context (isAsync : Bool) (items : List (Expr × Option Expr)) (body : List Stmt)
  | selection (subject : Expr) (cases : List Case)
  | raised (failure cause : Option Expr)
  | attempt (body : List Stmt) (handlers : List Handler) (isGroup : Bool)
      (otherwise finally_ : List Stmt)
  | assertion (condition : Expr) (message : Option Expr)
  | imported (names : List Imported)
  /-- Names imported from a module that is `level` packages above; no names are all names. -/
  | importedFrom (level : Nat) (module : Text) (names : List Imported)
  | globals (names : List Text)
  | nonlocals (names : List Text)
  | expression (value : Expr)
  | pass
  | breaking
  | continuing

inductive Case where
  | mk (pattern : Pattern) (guard : Option Expr) (body : List Stmt)

inductive Handler where
  | mk (type : Option Expr) (name : Option Text) (body : List Stmt)

end

end ControllerClient.Source
