import ControllerClient.Source.Tree

/-!
Which expressions can be given a value, be given one in place, or be deleted.
-/

namespace ControllerClient.Source.Expr

def isPlace : Expr → Bool
  | name _ | member _ _ | subscript _ _ => true
  | _ => false

mutual

def isDeletable : Expr → Bool
  | name _ | member _ _ | subscript _ _ => true
  | tuple items | list items => areDeletable items
  | _ => false

def areDeletable : List Expr → Bool
  | [] => true
  | item :: rest => isDeletable item && areDeletable rest

end

mutual

/--
Whether an expression can be assigned to: a place, or a tuple or a list of such, parts of it
starred.
-/
def isAssignable : Expr → Bool
  | name _ | member _ _ | subscript _ _ => true
  | starred value => isAssignable value
  | tuple items | list items => areAssignable items
  | _ => false

def areAssignable : List Expr → Bool
  | [] => true
  | item :: rest => isAssignable item && areAssignable rest

end

end ControllerClient.Source.Expr
