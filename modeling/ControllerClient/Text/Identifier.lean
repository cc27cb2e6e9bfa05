import ControllerClient.Text.CodeTable
import ControllerClient.Text.IdentifierRanges

/-!
Which texts are identifiers: a first character that may begin one, and later
characters that may continue one. Within ASCII these are the letters and the
low line, and the digits behind them.
-/

namespace ControllerClient.Text

def beginsIdentifier (c : Char) : Bool :=
  if c.toNat < 128 then isLetter c || c == '_' else inRanges identifierStartRanges c.toNat

def continuesIdentifier (c : Char) : Bool :=
  if c.toNat < 128 then isLetter c || c == '_' || isDigit c
  else inRanges identifierContinueRanges c.toNat

def isIdentifier : Text → Bool
  | [] => false
  | c :: rest => beginsIdentifier c && rest.all continuesIdentifier

end ControllerClient.Text

namespace ControllerClient

/-- An identifier as it is written. -/
structure Identifier where
  spelling : Text
  isValid : Text.isIdentifier spelling = true
deriving DecidableEq, Repr

end ControllerClient
