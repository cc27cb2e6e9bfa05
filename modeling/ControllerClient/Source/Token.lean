import ControllerClient.Number.Binary64
import ControllerClient.Source.Keyword

/-!
The tokens of source text. Line ends and changes of indentation are tokens; a
string literal is a token with its body as it is written.
-/

namespace ControllerClient.Source

inductive BinaryOperator where
  | add | subtract | multiply | multiplyMatrices | divide | remainder | divideWhole | power
  | shiftLeft | shiftRight | bitAnd | bitOr | bitXor
deriving DecidableEq, Repr

inductive Mark where
  | leftParenthesis | rightParenthesis | leftBracket | rightBracket | leftBrace | rightBrace
  | comma | colon | semicolon | dot | ellipsis | arrow | atSign | equals | walrus
  | plus | minus | star | doubleStar | slash | doubleSlash | percent
  | ampersand | bar | caret | tilde | doubleLess | doubleGreater
  | less | greater | lessEqual | greaterEqual | doubleEqual | notEqual
  | becomes (operator : BinaryOperator)
deriving DecidableEq, Repr

namespace Mark

/-- The marks and how they are written, longer ones first. -/
def table : List (Mark × Text) :=
  [(becomes .power, "**="), (becomes .divideWhole, "//="), (becomes .shiftLeft, "<<="),
    (becomes .shiftRight, ">>="), (ellipsis, "..."), (notEqual, "!="), (becomes .remainder, "%="),
    (becomes .bitAnd, "&="), (doubleStar, "**"), (becomes .multiply, "*="), (becomes .add, "+="),
    (becomes .subtract, "-="), (arrow, "->"), (doubleSlash, "//"), (becomes .divide, "/="),
    (walrus, ":="), (doubleLess, "<<"), (lessEqual, "<="), (doubleEqual, "=="),
    (greaterEqual, ">="), (doubleGreater, ">>"), (becomes .multiplyMatrices, "@="),
    (becomes .bitXor, "^="), (becomes .bitOr, "|="), (leftParenthesis, "("),
    (rightParenthesis, ")"), (leftBracket, "["), (rightBracket, "]"), (leftBrace, "\x7b"),
    (rightBrace, "\x7d"), (comma, ","), (colon, ":"), (semicolon, ";"), (dot, "."), (atSign, "@"),
    (equals, "="), (plus, "+"), (minus, "-"), (star, "*"), (slash, "/"), (percent, "%"),
    (ampersand, "&"), (bar, "|"), (caret, "^"), (tilde, "~"), (less, "<"), (greater, ">")].map
    fun (mark, spelling) => (mark, spelling.toList)

def read? (text : Text) : Option (Mark × Text) :=
  table.findSome? fun (mark, spelling) => (Text.after? spelling text).map (mark, ·)

def closing? : Mark → Option Mark
  | leftParenthesis => some rightParenthesis
  | leftBracket => some rightBracket
  | leftBrace => some rightBrace
  | _ => none

def isClosing (mark : Mark) : Bool :=
  mark = rightParenthesis || mark = rightBracket || mark = rightBrace

end Mark

inductive Number where
  | whole (n : Nat)
  | real (x : Binary64)
  | imaginary (x : Binary64)
deriving DecidableEq, Repr

structure LiteralKind where
  bytes : Bool
  raw : Bool
  unicode : Bool
  formatted : Bool
deriving DecidableEq, Repr

namespace LiteralKind

def plain : LiteralKind := ⟨false, false, false, false⟩

/-- One letter more in front of a literal, if it can stand there. -/
def add? (kind : LiteralKind) (c : Char) : Option LiteralKind :=
  let encoded := kind.bytes || kind.unicode || kind.formatted
  if !encoded && (c = 'b' || c = 'B') then some { kind with bytes := true }
  else if !(encoded || kind.raw) && (c = 'u' || c = 'U') then some { kind with unicode := true }
  else if !(kind.raw || kind.unicode) && (c = 'r' || c = 'R') then some { kind with raw := true }
  else if !encoded && (c = 'f' || c = 'F') then some { kind with formatted := true }
  else none

end LiteralKind

structure StringLiteral where
  kind : LiteralKind
  body : Text
deriving DecidableEq, Repr

inductive Token where
  | name (identifier : Identifier)
  | keyword (word : Keyword)
  | number (value : Number)
  | string (literal : StringLiteral)
  | mark (mark : Mark)
  | newline
  | indent
  | dedent
deriving DecidableEq, Repr

end ControllerClient.Source
