import ControllerClient.Number.ShortestDecimal
import ControllerClient.Text.Quoted

/-!
Dynamic values: the data that callers hand to an endpoint, the options of a
call, the settings of a configuration file and the bodies of answers. Entries
of a dictionary keep their order, and keys are compared as numbers where they
are numbers.
-/

namespace ControllerClient

inductive RaisedKind where
  | value | key | type | runtime | system | connection | cancellation
deriving DecidableEq, Repr

structure Raised where
  kind : RaisedKind
  message : Text
deriving DecidableEq, Repr

structure Response where
  status : Int
  body : List UInt8
deriving DecidableEq, Repr

structure Transport where
  raised : Option Raised
  response : Response
deriving DecidableEq, Repr

inductive Value where
  | null
  | bool (b : Bool)
  | int (n : Int)
  | float (x : Binary64)
  | str (text : Text)
  | bytes (content : List UInt8)
  | list (items : List Value)
  | tuple (items : List Value)
  | set (items : List Value)
  | dict (entries : List (Value × Value))
  | transport (t : Transport)
  | response (r : Response)
deriving Repr

/-- The entries of a dictionary, in order of first insertion. -/
abbrev Entries := List (Value × Value)

namespace Value

def kindName : Value → Text
  | null => "NoneType".toList
  | bool _ => "bool".toList
  | int _ => "int".toList
  | float _ => "float".toList
  | str _ => "str".toList
  | bytes _ => "bytes".toList
  | list _ => "list".toList
  | tuple _ => "tuple".toList
  | set _ => "set".toList
  | dict _ => "dict".toList
  | transport _ => "MockTransport".toList
  | response _ => "Response".toList

/-- Whether a value counts as true: nothing, zero and what is empty do not. -/
def isTruthy : Value → Bool
  | null => false
  | bool b => b
  | int n => n != 0
  | float x => !x.isInteger 0
  | str text => !text.isEmpty
  | bytes content => !content.isEmpty
  | list items | tuple items | set items => !items.isEmpty
  | dict entries => !entries.isEmpty
  | transport _ | response _ => true

def integerKey? : Value → Option Int
  | bool b => some (if b then 1 else 0)
  | int n => some n
  | _ => none

mutual

/-- Whether two values are the same key. -/
def sameKey : Value → Value → Bool
  | null, null => true
  | bool a, bool b => a == b
  | bool a, int n => n == if a then 1 else 0
  | int n, bool a => n == if a then 1 else 0
  | int m, int n => m == n
  | float x, float y => x.sameNumber y
  | float x, bool a => x.isInteger (if a then 1 else 0)
  | bool a, float x => x.isInteger (if a then 1 else 0)
  | float x, int n => x.isInteger n
  | int n, float x => x.isInteger n
  | str s, str t => s == t
  | bytes a, bytes b => a == b
  | tuple xs, tuple ys => sameKeys xs ys
  | _, _ => false

def sameKeys : List Value → List Value → Bool
  | [], [] => true
  | x :: xs, y :: ys => sameKey x y && sameKeys xs ys
  | _, _ => false

end

end Value

namespace Entries

def get? (entries : Entries) (key : Value) : Option Value :=
  (entries.find? fun entry => entry.1.sameKey key).map (·.2)

def insert (entries : Entries) (key value : Value) : Entries :=
  match entries with
  | [] => [(key, value)]
  | entry :: rest =>
    if entry.1.sameKey key then (entry.1, value) :: rest
    else entry :: insert rest key value

def erase (entries : Entries) (key : Value) : Entries :=
  match entries with
  | [] => []
  | entry :: rest => if entry.1.sameKey key then rest else entry :: erase rest key

def ofPairs (pairs : List (Value × Value)) : Entries :=
  pairs.foldl (fun entries pair => entries.insert pair.1 pair.2) []

def field? (entries : Entries) (name : Text) : Option Value := entries.get? (.str name)

def setField (entries : Entries) (name : Text) (value : Value) : Entries :=
  entries.insert (.str name) value

end Entries

namespace Value

def bracketed (opening closing : Char) (items : List Text) : Text :=
  opening :: Text.joined ", ".toList items ++ [closing]

mutual

/-- The form of a value inside other values and in messages: text is quoted. -/
def shown : Value → Text
  | null => "None".toList
  | bool b => if b then "True".toList else "False".toList
  | int n => Text.ofInt n
  | float x => x.write
  | str text => Text.quoted text
  | bytes content => Text.quotedBytes content
  | list items => bracketed '[' ']' (shownItems items)
  | tuple [item] => '(' :: shown item ++ ",)".toList
  | tuple items => bracketed '(' ')' (shownItems items)
  | set [] => "set()".toList
  | set items => bracketed '\x7b' '\x7d' (shownItems items)
  | dict entries => bracketed '\x7b' '\x7d' (shownEntries entries)
  | transport _ => "<MockTransport>".toList
  | response r => "<Response [".toList ++ Text.ofInt r.status ++ "]>".toList

def shownItems : List Value → List Text
  | [] => []
  | item :: rest => shown item :: shownItems rest

def shownEntries : List (Value × Value) → List Text
  | [] => []
  | (key, value) :: rest => (shown key ++ ": ".toList ++ shown value) :: shownEntries rest

end

/-- The form of a value on its own: text stands as it is. -/
def asText : Value → Text
  | str text => text
  | value => value.shown

end Value

end ControllerClient
