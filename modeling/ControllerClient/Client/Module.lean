import ControllerClient.Dispatch.BoundEndpoint
import ControllerClient.Source.Constant

/-!
Client modules as they are after their text has been run: names and what they
stand for. The text imports what makes endpoints callable, applies it to a table
and gives names to single endpoints; no other text is a client module.
-/

namespace ControllerClient

/-- What a name of a client module stands for. -/
inductive Member where
  | value (value : Value)
  /-- What makes the endpoints of a table callable. -/
  | maker
  | table (endpoints : Table BoundEndpoint)
  /-- The endpoint under a key of the table. -/
  | endpoint (key : Text) (endpoint : BoundEndpoint)
deriving Repr

structure ClientModule where
  doc : Option Text
  members : Table Member
deriving Repr

namespace ClientModule

def makerSource : Text := "forget_api.request".toList

def makerOrigin : Text := "create_apis".toList

def rows? : Entries → Option (Table Value)
  | [] => some []
  | (.str name, row) :: rest => (rows? rest).map ((name, row) :: ·)
  | _ :: _ => none

/-- The endpoints that the maker makes of a prefix and a table. -/
def makeTable (routePrefix table : Source.Expr) : Except Failure Member :=
  match routePrefix.value?, table.value? with
  | some routePrefix, some (.dict entries) =>
    match rows? entries with
    | some rows => do .ok (.table (← BoundEndpoint.ofRows routePrefix rows))
    | none => .error .malformedSource
  | _, _ => .error .malformedSource

def evaluate (members : Table Member) : Source.Expr → Except Failure Member
  | .call (.name callee) [.positional routePrefix, .positional table] =>
    match members.lookup callee with
    | some .maker => makeTable routePrefix table
    | _ => .error .malformedSource
  | .subscript (.name owner) (.constant (.text key)) =>
    match members.lookup owner with
    | some (.table endpoints) =>
      match endpoints.lookup key with
      | some endpoint => .ok (.endpoint key endpoint)
      | none => .error (.missingKey (.str key))
    | _ => .error .malformedSource
  | expression =>
    match expression.value? with
    | some value => .ok (.value value)
    | none => .error .malformedSource

def runStatement (members : Table Member) : Source.Stmt → Except Failure (Table Member)
  | .expression (.constant (.text _)) => .ok members
  | .importedFrom 0 source [⟨name, given⟩] =>
    if source = makerSource ∧ name = makerOrigin then
      .ok (Table.insert members (given.getD name) .maker)
    else .error .malformedSource
  | .assigned [.name target] value => do
    .ok (Table.insert members target (← evaluate members value))
  | _ => .error .malformedSource

def runStatements (members : Table Member) : List Source.Stmt → Except Failure (Table Member)
  | [] => .ok members
  | first :: later => do runStatements (← runStatement members first) later

def docOf : List Source.Stmt → Option Text
  | .expression (.constant (.text content)) :: _ => some content
  | _ => none

def ofStatements (statements : List Source.Stmt) : Except Failure ClientModule := do
  .ok ⟨docOf statements, ← runStatements [] statements⟩

def ofCode (code : Text) : Except Failure ClientModule := do
  ofStatements (← Source.read code)

def endpoints (module : ClientModule) : Table BoundEndpoint :=
  match module.members.lookup Client.tableName with
  | some (.table endpoints) => endpoints
  | _ => []

def offerName : Text := "__all__".toList

def text? : Value → Option Text
  | .str text => some text
  | _ => none

def offered (module : ClientModule) : List Text :=
  match module.members.lookup offerName with
  | some (.value (.list names)) => names.filterMap text?
  | _ => []

/-- Whether a name of the module stands for the endpoint of that name in the table. -/
def isBound (module : ClientModule) (name : Text) : Bool :=
  match module.members.lookup name with
  | some (.endpoint key _) => key = name
  | _ => false

end ClientModule

end ControllerClient
