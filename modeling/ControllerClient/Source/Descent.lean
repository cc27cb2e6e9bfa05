import ControllerClient.Source.Token

/-!
How far reading descends. A rule of the grammar that is begun and not ended is
a step down; brackets cost many steps, a sign or a negation one each. The count
follows the tokens and needs no tree.
-/

namespace ControllerClient.Source

/-- What is open between two brackets, or outside of all. -/
structure Enclosure where
  /-- The steps down to an item behind a comma. -/
  later : Nat
  /-- The steps down to the item that is being read. -/
  item : Nat
  /-- The steps that alternatives and functions without a name take in front of an operand. -/
  expression : Nat
  negations : Nat
  signs : Nat
  /-- How many functions without a name have still to come to their colon. -/
  functions : Nat
deriving DecidableEq, Repr

namespace Enclosure

def fresh (first later : Nat) : Enclosure := ⟨later, first, 0, 0, 0, 0⟩

def depth (e : Enclosure) : Nat := e.item + e.expression + e.negations + e.signs

def afterOperator (e : Enclosure) : Enclosure := { e with signs := 0 }

def afterWord (e : Enclosure) : Enclosure := { e with negations := 0, signs := 0 }

def again (e : Enclosure) : Enclosure :=
  { e with expression := 0, negations := 0, signs := 0, functions := 0 }

def next (e : Enclosure) : Enclosure := fresh e.later e.later

/-- Inside the parameters of a function without a name a mark begins nothing. -/
def unlessInParameters (e changed : Enclosure) : Enclosure :=
  if e.functions = 0 then changed else e

def afterColon (e : Enclosure) : Enclosure :=
  if e.functions = 0 then e.again else { e with functions := e.functions - 1 }

end Enclosure

/-- How far reading has come down. -/
structure Descent where
  /-- The enclosures that are open, innermost first. -/
  inner : Enclosure
  outer : List Enclosure
  /-- Whether an operand has just been read, so that an operator may follow. -/
  afterOperand : Bool
  deepest : Nat
deriving DecidableEq, Repr

namespace Descent

def start : Descent := ⟨.fresh 0 0, [], false, 0⟩

/-- The steps from the beginning of an expression to an operand. -/
def operandSteps : Nat := 22

def operand (d : Descent) : Descent :=
  { d with afterOperand := true, deepest := max d.deepest (d.inner.depth + operandSteps) }

def before (d : Descent) (inner : Enclosure) : Descent := { d with inner, afterOperand := false }

def bracketSteps (afterOperand : Bool) : Mark → Nat × Nat
  | .leftParenthesis => if afterOperand then (24, 28) else (28, 30)
  | .leftBracket => if afterOperand then (24, 27) else (29, 30)
  | _ => (29, 30)

def descend (d : Descent) (bracket : Mark) : Descent :=
  let (first, later) := bracketSteps d.afterOperand bracket
  let depth := d.inner.depth
  { d with
    inner := .fresh (depth + first) (depth + later)
    outer := d.inner :: d.outer
    afterOperand := false }

def ascend (d : Descent) : Descent :=
  match d.outer with
  | [] => d
  | inner :: outer => { d with inner, outer, afterOperand := true }

def mark (d : Descent) (mark : Mark) : Descent :=
  let e := d.inner
  match mark with
  | .leftParenthesis | .leftBracket | .leftBrace => d.descend mark
  | .rightParenthesis | .rightBracket | .rightBrace => d.ascend
  | .dot => d
  | .ellipsis => d.operand
  | .comma => d.before (e.unlessInParameters e.next)
  | .colon => d.before e.afterColon
  | .semicolon | .equals | .walrus | .arrow | .becomes _ => d.before (e.unlessInParameters e.again)
  | .plus | .minus | .tilde =>
    d.before (if d.afterOperand then e.afterOperator else { e with signs := e.signs + 1 })
  | .doubleStar =>
    d.before (if d.afterOperand then { e with signs := e.signs + 2 } else e)
  | _ => d.before e.afterOperator

def word (d : Descent) (word : Keyword) : Descent :=
  let e := d.inner
  match word with
  | .noneWord | .trueWord | .falseWord => d.operand
  | .awaitWord => d
  | .notWord =>
    d.before (if d.afterOperand then e.afterOperator else { e with negations := e.negations + 1 })
  | .inWord | .isWord => d.before e.afterOperator
  | .andWord | .orWord | .ifWord => d.before e.afterWord
  | .elseWord => d.before { e.afterWord with expression := e.expression + 1 }
  | .lambdaWord =>
    d.before { e with expression := e.expression + 2, functions := e.functions + 1 }
  | _ => d.before e.again

def marginSteps : Nat := 6

def step (d : Descent) : Token → Descent
  | .name _ | .number _ | .string _ => d.operand
  | .mark mark => d.mark mark
  | .keyword word => d.word word
  | .newline => d.before d.inner.next
  | .indent => d.before (.fresh (d.inner.later + marginSteps) (d.inner.later + marginSteps))
  | .dedent => d.before (.fresh (d.inner.later - marginSteps) (d.inner.later - marginSteps))

def stepsOf (tokens : List Token) : Nat := (tokens.foldl step start).deepest

/-- How many steps down reading may go. -/
def limit : Nat := 6000

end Descent

end ControllerClient.Source
