import ControllerClient.Source.Tree
import ControllerClient.Text.Normalization

/-!
Readers of tokens. A reader takes what it understands from the beginning of a
list of tokens and gives back the rest; it refuses what it does not understand.
-/

namespace ControllerClient

/-- The name that an identifier stands for: its normal form. -/
def Identifier.name (identifier : Identifier) : Text := Text.normalized identifier.spelling

end ControllerClient

namespace ControllerClient.Source

/-- A reader of the beginning of a list of tokens. -/
abbrev Reader (α : Type) := List Token → Option (α × List Token)

namespace Reader

variable {α : Type}

def expect (token : Token) : Reader Unit
  | first :: rest => if first = token then some ((), rest) else none
  | [] => none

def mark (mark : Mark) : Reader Unit := expect (.mark mark)

def word (word : Keyword) : Reader Unit := expect (.keyword word)

def name : Reader Text
  | .name identifier :: rest => some (identifier.name, rest)
  | _ => none

def optionally (reader : Reader α) : Reader (Option α) := fun tokens =>
  match reader tokens with
  | some (value, rest) => some (some value, rest)
  | none => some (none, tokens)

/-- Reads as often as a reader understands. -/
def many (fuel : Nat) (item : Reader α) : Reader (List α) := fun tokens =>
  match fuel with
  | 0 => some ([], tokens)
  | fuel + 1 =>
    match item tokens with
    | none => some ([], tokens)
    | some (value, rest) => do
      let (values, rest) ← many fuel item rest
      some (value :: values, rest)

def afterMark (mark_ : Mark) (reader : Reader α) : Reader α := fun tokens => do
  let (_, tokens) ← mark mark_ tokens
  reader tokens

def afterWord (keyword : Keyword) (reader : Reader α) : Reader α := fun tokens => do
  let (_, tokens) ← word keyword tokens
  reader tokens

def separated (fuel : Nat) (separator : Mark) (item : Reader α) : Reader (List α) :=
  fun tokens => do
  let (first, tokens) ← item tokens
  let (later, tokens) ← many fuel (afterMark separator item) tokens
  some (first :: later, tokens)

def comma? : List Token → Bool × List Token
  | .mark .comma :: rest => (true, rest)
  | tokens => (false, tokens)

/--
Reads items with commas between them and perhaps at the end, and says whether a comma is at
the end.
-/
def listed (fuel : Nat) (item : Reader α) : Reader (List α × Bool) := fun tokens => do
  let (items, tokens) ← separated fuel .comma item tokens
  let (ended, tokens) := comma? tokens
  some ((items, ended), tokens)

end Reader

end ControllerClient.Source
