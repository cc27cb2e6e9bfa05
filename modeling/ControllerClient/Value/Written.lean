import ControllerClient.Failure

/-!
The texts of values that are written. A text has no bound of its own, but a whole number with
too many digits is not written, and nothing that holds one is.
-/

namespace ControllerClient.Value

mutual

/-- Whether the whole numbers in a value have few enough digits to be written. -/
def isShowable : Value → Bool
  | int n => decide (Text.HasFewDigits n)
  | list items | tuple items | set items => areShowable items
  | dict entries => areShowableEntries entries
  | response r => decide (Text.HasFewDigits r.status)
  | _ => true

def areShowable : List Value → Bool
  | [] => true
  | item :: rest => item.isShowable && areShowable rest

def areShowableEntries : List (Value × Value) → Bool
  | [] => true
  | (key, value) :: rest => key.isShowable && value.isShowable && areShowableEntries rest

end

variable {α : Type}

/-- What is made of the text of a value, unless a number in it is too long to be written. -/
def limited (value : Value) (made : α) : Except Failure α :=
  if value.isShowable then .ok made else .error (.shape (.digitLimit none))

variable {value : Value}

theorem limited_of_isShowable (showable : value.isShowable = true) (made : α) :
    value.limited made = .ok made := if_pos showable

theorem limited_of_long (long : value.isShowable = false) (made : α) :
    value.limited made = .error (.shape (.digitLimit none)) := by
  rw [limited, long, if_neg Bool.false_ne_true]

theorem limited_eq_ok_iff {made found : α} :
    value.limited made = .ok found ↔ value.isShowable = true ∧ made = found := by
  unfold limited
  split
  · next showable => simp [showable]
  · next long => simp [long]

end ControllerClient.Value
