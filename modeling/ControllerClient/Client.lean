import ControllerClient.Source.Keyword
import ControllerClient.Table
import ControllerClient.Value.Concatenation

/-!
The client module of a controller: what it binds, and its text. The module
holds the table of the controller's endpoints under one name and every endpoint
that can have a name of its own under that name too.
-/

namespace ControllerClient

structure Endpoint where
  verb : Value
  path : Value
deriving Repr

structure Client where
  prefixUrl : Value
  endpoints : Table Endpoint
  names : List Text
  controller : Option Text
deriving Repr

namespace Endpoint

def ofValue (row : Value) : Except Failure Endpoint := do
  let (verb, path) ← row.pair
  .ok ⟨verb, path⟩

def toValue (endpoint : Endpoint) : Value := .tuple [endpoint.verb, endpoint.path]

end Endpoint

namespace Client

def tableName : Text := "default".toList

def makerName : Text := "_create_apis".toList

/-- The names that the module uses itself. -/
def reservedNames : List Text := [tableName, makerName]

/-- Whether an endpoint's name can also be a name of the module. -/
def isBindable (name : Text) : Bool := Source.isName name && !reservedNames.contains name

def build (prefixUrl : Value) (rows : Table Value) (base : Value) (controller : Option Text) :
    Except Failure Client := do
  let endpoints ← rows.mapM fun (name, row) => do .ok (name, ← Endpoint.ofValue row)
  let whole ← base.concat prefixUrl
  .ok { prefixUrl := whole
        endpoints
        names := (endpoints.map (·.1)).filter isBindable
        controller }

def tableValue (client : Client) : Value :=
  .dict (client.endpoints.map fun (name, endpoint) => (.str name, endpoint.toValue))

def offered (client : Client) : List Text := tableName :: client.names

def title (client : Client) : Text :=
  match client.controller with
  | none | some [] => "controller".toList
  | some name => name

def titleLine (client : Client) : Text :=
  "\"\"\"Client for ".toList ++ client.title
    ++ " generated by forget-api. Do not edit.\"\"\"\n".toList

def importLine : Text := "from forget_api.request import create_apis as _create_apis\n".toList

def tableLine (client : Client) : Text :=
  tableName ++ " = ".toList ++ makerName ++ '(' :: client.prefixUrl.shown ++ ", ".toList
    ++ client.tableValue.shown ++ ")\n".toList

def bindingLine (name : Text) : Text :=
  name ++ " = ".toList ++ tableName ++ '[' :: Text.quoted name ++ "]\n".toList

def offerLine (client : Client) : Text :=
  "__all__ = ".toList ++ (Value.list (client.offered.map .str)).shown ++ ['\n']

def code (client : Client) : Text :=
  client.titleLine ++ '\n' :: importLine ++ '\n' :: client.tableLine ++ '\n'
    :: client.names.flatMap bindingLine ++ '\n' :: client.offerLine

end Client

end ControllerClient
