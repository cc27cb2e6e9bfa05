import ControllerClient.Http.Address
import ControllerClient.Table
import ControllerClient.Value.Concatenation
import ControllerClient.Value.Written

/-!
The query of a request from parameters: a dictionary, pairs, or a query as text.
-/

namespace ControllerClient.Http.Parameters

def textOf : Value → Except Failure Text
  | .null => .ok []
  | .bool b => .ok (if b then "true".toList else "false".toList)
  | value => value.limited value.asText

abbrev Grouped := Table (List Text)

def add (groups : Grouped) (name : Text) (values : List Text) : Grouped :=
  match groups with
  | [] => [(name, values)]
  | group :: rest =>
    if group.1 = name then (name, group.2 ++ values) :: rest else group :: add rest name values

def unquoted : Text → List UInt8
  | '+' :: rest => 32 :: unquoted rest
  | '%' :: a :: b :: rest =>
    match Text.hexValue? a, Text.hexValue? b with
    | some high, some low => UInt8.ofNat (high * 16 + low) :: unquoted rest
    | _, _ => 37 :: unquoted (a :: b :: rest)
  | c :: rest => Utf8.encodeChar c ++ unquoted rest
  | [] => []

def isAscii (c : Char) : Bool := c.toNat < 128

/-- The text of a quoted text, in which only runs of ASCII are quoted. -/
def unquotedText (text : Text) : Text :=
  (text.splitBy fun a b => isAscii a == isAscii b).flatMap fun run =>
    if run.all isAscii then Utf8.decodeReplacing (unquoted run) else run

def ofQuery (query : Text) : Grouped :=
  ((Text.pieces '&' query).filter (!·.isEmpty)).foldl
    (fun groups piece =>
      let (name, value) := Address.cutAt '=' piece
      add groups (unquotedText name) [unquotedText (value.getD [])])
    []

def isPlain (c : Char) : Bool :=
  Text.isLetter c || Text.isDigit c || c = '_' || c = '.' || c = '-' || c = '~'

def quotedOctet (octet : UInt8) : Text :=
  let c := Char.ofNat octet.toNat
  if isPlain c then [c] else if c = ' ' then ['+'] else Address.percentOctet octet

def quoted (text : Text) : Except Failure Text :=
  (Text.utf8 text).map (·.flatMap quotedOctet)

def quotedPair (pair : Text × Text) : Except Failure Text := do
  .ok ((← quoted pair.1) ++ '=' :: (← quoted pair.2))

def quotedPairs (pairs : List (Text × Text)) : Except Failure Text :=
  (pairs.mapM quotedPair).map (Text.joined ['&'])

def toQuery (groups : Grouped) : Except Failure Text :=
  quotedPairs (groups.flatMap fun (name, values) => values.map (name, ·))

def valuesOf : Value → Except Failure (List Text)
  | .list items | .tuple items => items.mapM textOf
  | value => do .ok [← textOf value]

def ofPair (item : Value) : Except Failure (Text × Text) := do
  let (name, value) ← item.pair
  .ok (← name.limited name.asText, ← textOf value)

def ofValue (value : Value) : Except Failure (Option Grouped) :=
  if value.isTruthy then
    match value with
    | .str query => .ok (some (ofQuery query))
    | .dict entries => do
      let groups ← entries.mapM fun (name, value) => do
        .ok (← name.limited name.asText, ← valuesOf value)
      .ok (some (groups.foldl (fun all (name, values) => add all name values) []))
    | .list items | .tuple items => do
      let pairs ← items.mapM ofPair
      .ok (some (pairs.foldl (fun groups (name, value) => add groups name [value]) []))
    | other => .error (.noMember other.kindName "items".toList)
  else .ok none

end ControllerClient.Http.Parameters
