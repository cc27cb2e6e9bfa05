import ControllerClient.Value.Concatenation

/-!
The options of a call: a dictionary, made anew for every call from whatever the
caller gives.
-/

namespace ControllerClient.Options

mutual

def unhashableKind? : Value → Option Text
  | .list _ => some "list".toList
  | .dict _ => some "dict".toList
  | .set _ => some "set".toList
  | .tuple items => unhashableItem? items
  | _ => none

def unhashableItem? : List Value → Option Text
  | [] => none
  | item :: rest =>
    match unhashableKind? item with
    | some kind => some kind
    | none => unhashableItem? rest

end

def entryOf (position : Nat) (item : Value) : Except Failure (Value × Value) :=
  match item.items? with
  | none => .error (.kind (.elementNotSequence position))
  | some [key, value] =>
    match unhashableKind? key with
    | some kind => .error (.kind (.unhashable kind))
    | none => .ok (key, value)
  | some items => .error (.shape (.elementLength position items.length))

def entriesFrom (position : Nat) : List Value → Except Failure (List (Value × Value))
  | [] => .ok []
  | item :: rest => do
    let entry ← entryOf position item
    .ok (entry :: (← entriesFrom (position + 1) rest))

def dictionaryOf (value : Value) : Except Failure Entries :=
  match value with
  | .dict entries => .ok entries
  | other =>
    match other.items? with
    | none => .error (.kind (.notIterable other.kindName))
    | some items => do .ok (Entries.ofPairs (← entriesFrom 0 items))

/-- The options that a caller gives; whatever counts as false gives none. -/
def ofValue (value : Value) : Except Failure Entries :=
  if value.isTruthy then dictionaryOf value else .ok []

def methodName : Text := "method".toList

def bodyName : Text := "body".toList

/-- The options with a method: their own, unless it counts as false. -/
def withMethod (options : Entries) (verb : Value) : Entries :=
  if ((options.field? methodName).getD .null).isTruthy then options
  else options.setField methodName verb

def method (options : Entries) : Except Failure Value :=
  match options.field? methodName with
  | some method => .ok method
  | none => .error (.missingKey (.str methodName))

/-- The options of a request together with its body, which an option of that name replaces. -/
def withBody (options : Entries) (body : Value) : Entries :=
  Entries.ofPairs ((.str bodyName, body) :: options)

end ControllerClient.Options
