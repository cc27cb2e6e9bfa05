import ControllerClient.Failure

/-!
The sum of two values: numbers are added, sequences of one kind are put one
after the other, and nothing else has a sum. Also the two halves of a value that
is to be taken apart.
-/

namespace ControllerClient.Value

/-- The number that a number or a truth value counts as, if it is whole. -/
def whole? : Value → Option Int := integerKey?

def concat (left right : Value) : Except Failure Value :=
  match left, right with
  | .str a, .str b => .ok (.str (a ++ b))
  | .str _, other => .error (.kind (.concatenation "str".toList other.kindName))
  | .list a, .list b => .ok (.list (a ++ b))
  | .list _, other => .error (.kind (.concatenation "list".toList other.kindName))
  | .tuple a, .tuple b => .ok (.tuple (a ++ b))
  | .tuple _, other => .error (.kind (.concatenation "tuple".toList other.kindName))
  | .bytes a, .bytes b => .ok (.bytes (a ++ b))
  | .bytes _, other => .error (.kind (.octetConcatenation other.kindName))
  | .float x, .float y => .ok (.float (x.add y))
  | _, _ =>
    let refused : Failure := .kind (.operands "+".toList left.kindName right.kindName)
    match left, right, left.whole?, right.whole? with
    | _, _, some m, some n => .ok (.int (m + n))
    | .float x, _, _, some n => .ok (.float (x.add (.ofInt n)))
    | _, .float y, some m, _ => .ok (.float ((Binary64.ofInt m).add y))
    | _, _, _, _ => .error refused

/-- The items that a value consists of: of text its characters, of a dictionary its keys. -/
def items? : Value → Option (List Value)
  | .str text => some (text.map fun c => .str [c])
  | .bytes content => some (content.map fun octet => .int octet.toNat)
  | .list items | .tuple items | .set items => some items
  | .dict entries => some (entries.map (·.1))
  | _ => none

def pair (value : Value) : Except Failure (Value × Value) :=
  match value.items? with
  | none => .error (.kind (.notUnpackable value.kindName))
  | some [first, second] => .ok (first, second)
  | some (_ :: _ :: _ :: _) => .error (.shape .tooManyValues)
  | some items => .error (.shape (.tooFewValues items.length))

end ControllerClient.Value
