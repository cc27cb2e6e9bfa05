import ControllerClient.Source.Tree
import ControllerClient.Value

/-!
The values of literal expressions: constants, and collections of such values.
-/

namespace ControllerClient.Source

/-- The value of a constant; an ellipsis and an imaginary number have none. -/
def Constant.value? : Constant → Option Value
  | none => some .null
  | bool b => some (.bool b)
  | number (.whole n) => some (.int n)
  | number (.real x) => some (.float x)
  | text content => some (.str content)
  | octets content => some (.bytes content)
  | ellipsis | number (.imaginary _) => Option.none

mutual

def Expr.value? : Expr → Option Value
  | .constant value => value.value?
  | .unary .minus (.constant (.number (.whole n))) => some (.int (-n))
  | .tuple items => (valuesOf? items).map .tuple
  | .list items => (valuesOf? items).map .list
  | .dict entries => (entriesOf? entries).map fun entries => .dict (Entries.ofPairs entries)
  | _ => none

def valuesOf? : List Expr → Option (List Value)
  | [] => some []
  | item :: rest =>
    match item.value?, valuesOf? rest with
    | some value, some values => some (value :: values)
    | _, _ => none

def entriesOf? : List (Option Expr × Expr) → Option (List (Value × Value))
  | [] => some []
  | (some key, value) :: rest =>
    match key.value?, value.value?, entriesOf? rest with
    | some key, some value, some entries => some ((key, value) :: entries)
    | _, _, _ => none
  | (none, _) :: _ => none

end

end ControllerClient.Source
