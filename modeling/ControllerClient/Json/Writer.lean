import ControllerClient.Value.Written

/-!
Compact JSON in ASCII: no blanks, every character outside printable ASCII as
an escape, characters beyond the basic plane as a pair of surrogates, and half
of a pair as the half that it is.
-/

namespace ControllerClient.Json

def unitEscape (unit : Nat) : Text := "\\u".toList ++ Text.hexDigits 4 unit

def escaped (c : Char) : Text :=
  if c = '"' then "\\\"".toList
  else if c = '\\' then "\\\\".toList
  else if c = '\n' then "\\n".toList
  else if c = '\r' then "\\r".toList
  else if c = '\t' then "\\t".toList
  else if c = '\x0c' then "\\f".toList
  else if c = '\x08' then "\\b".toList
  else if 0x20 ≤ c.toNat ∧ c.toNat < 0x7f then [c]
  else if Text.codeOf c < 0x10000 then unitEscape (Text.codeOf c)
  else
    let rest := c.toNat - 0x10000
    unitEscape (0xd800 + rest / 0x400) ++ unitEscape (0xdc00 + rest % 0x400)

def string (text : Text) : Text := '"' :: text.flatMap escaped ++ ['"']

def number (x : Binary64) : Text :=
  match x.magnitude with
  | .notANumber => "NaN".toList
  | .infinite => if x.isNegative then "-Infinity".toList else "Infinity".toList
  | .finite _ _ => x.write

def integer (n : Int) : Except Failure Text := (Value.int n).limited (Text.ofInt n)

def truth (b : Bool) : Text := if b then "true".toList else "false".toList

def key : Value → Except Failure Text
  | .str text => .ok text
  | .null => .ok "null".toList
  | .bool b => .ok (truth b)
  | .int n => integer n
  | .float x => .ok (number x)
  | other => .error (.kind (.keyNotSerializable other.kindName))

mutual

/-- The compact text of a value; the first part that has none decides the failure. -/
def write : Value → Except Failure Text
  | .null => .ok "null".toList
  | .bool b => .ok (truth b)
  | .int n => integer n
  | .float x => .ok (number x)
  | .str text => .ok (string text)
  | .list items | .tuple items =>
    (writeItems items).map fun texts => '[' :: Text.joined [','] texts ++ [']']
  | .dict entries =>
    (writeEntries entries).map fun texts => '\x7b' :: Text.joined [','] texts ++ ['\x7d']
  | other => .error (.kind (.notSerializable other.kindName))

def writeItems : List Value → Except Failure (List Text)
  | [] => .ok []
  | item :: rest =>
    match write item with
    | .error failure => .error failure
    | .ok text => (writeItems rest).map (text :: ·)

def writeEntries : List (Value × Value) → Except Failure (List Text)
  | [] => .ok []
  | (name, value) :: rest =>
    match key name, write value with
    | .error failure, _ => .error failure
    | _, .error failure => .error failure
    | .ok keyText, .ok text => (writeEntries rest).map ((string keyText ++ ':' :: text) :: ·)

end

end ControllerClient.Json
