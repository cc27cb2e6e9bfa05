import ControllerClient.Text.Encoding
import ControllerClient.Value.Concatenation

/-!
Headers: names, which are compared without regard to case, and values. Both are
octets, kept as the characters with their numbers.
-/

namespace ControllerClient.Http

abbrev Headers := List (Text × Text)

namespace Headers

def has (headers : Headers) (name : String) : Bool := headers.any (·.1 == name.toList)

def withDefault (headers : Headers) (name : String) (value : Text) : Headers :=
  if headers.has name then headers else headers ++ [(name.toList, value)]

inductive Coding where
  | ascii | utf8 | octets
deriving DecidableEq, Repr

def ofOctets (octets : List UInt8) : Text := octets.map fun octet => Char.ofNat octet.toNat

def toOctets (text : Text) : List UInt8 := text.map fun c => UInt8.ofNat c.toNat

def isUtf8 (text : Text) : Bool :=
  match Utf8.decode (toOctets text) with
  | .ok _ => true
  | .error _ => false

def coding (headers : Headers) : Coding :=
  let texts := headers.flatMap fun (name, value) => [name, value]
  if texts.all fun text => text.all fun c => c.toNat < 128 then .ascii
  else if texts.all isUtf8 then .utf8 else .octets

def Coding.encode : Coding → Text → Except Failure Text
  | ascii, text => Text.ascii text
  | utf8, text => (Text.utf8 text).map ofOctets
  | octets, text => Text.latin text

def Coding.decode : Coding → Text → Text
  | utf8, text => Utf8.decodeReplacing (toOctets text)
  | ascii, text | octets, text => text

def joining (headers : Headers) (name value : Text) : Headers :=
  match headers with
  | [] => [(name, value)]
  | header :: rest =>
    if header.1 = name then (name, header.2 ++ ", ".toList ++ value) :: rest
    else header :: joining rest name value

def combined (headers : Headers) : Headers :=
  headers.foldl (fun all (name, value) => joining all name value) []

def shown (headers : Headers) : Headers :=
  headers.combined.map fun (name, value) =>
    (headers.coding.decode name, headers.coding.decode value)

def nameOf : Value → Except Failure Text
  | .str name => (Text.ascii name).map fun name => name.map Char.toLower
  | .bytes name => .ok ((ofOctets name).map Char.toLower)
  | other => .error (.noMember other.kindName "encode".toList)

def valueOf : Value → Except Failure Text
  | .str value => Text.ascii value
  | .bytes value => .ok (ofOctets value)
  | other => .error (.kind (.headerValue other.kindName))

def ofPair (name value : Value) : Except Failure (Text × Text) := do
  .ok (← nameOf name, ← valueOf value)

def ofValue : Value → Except Failure Headers
  | .null => .ok []
  | .dict entries => entries.mapM fun (name, value) => ofPair name value
  | value =>
    match value.items? with
    | none => .error (.kind (.notIterable value.kindName))
    | some items => items.mapM fun item => do
      let (name, value) ← item.pair
      ofPair name value

end Headers

end ControllerClient.Http
