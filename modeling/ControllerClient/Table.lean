import ControllerClient.Text

/-!
Tables: names and what they stand for, in the order in which the names came.
-/

namespace ControllerClient

/-- Names and what they stand for, in order; each name once. -/
abbrev Table (α : Type) := List (Text × α)

namespace Table

def insert {α : Type} (table : Table α) (name : Text) (meaning : α) : Table α :=
  match table with
  | [] => [(name, meaning)]
  | entry :: rest =>
    if entry.1 = name then (name, meaning) :: rest else entry :: insert rest name meaning

/-- The table of a list of names and meanings; the last meaning of a name counts. -/
def ofList {α : Type} (entries : List (Text × α)) : Table α :=
  entries.foldl (fun table entry => table.insert entry.1 entry.2) []

end Table

end ControllerClient
