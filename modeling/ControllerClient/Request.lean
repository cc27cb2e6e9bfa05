import ControllerClient.Json.Writer
import ControllerClient.Route.Template
import ControllerClient.Text.Uppercase

/-!
The request of one call: its address and its body. The data of a call fill the
path template; what is left goes into the query of a request without body and
into the body of any other.
-/

namespace ControllerClient

structure Request where
  url : Text
  body : Value
deriving Repr

namespace Request

def withoutBody : List Text := ["GET".toList, "HEAD".toList]

def queryItem (entry : Value × Value) : Except Failure Text := do
  let key ← entry.1.limited entry.1.asText
  let text ← entry.2.limited (Route.textOf entry.2)
  .ok (key ++ '=' :: text)

def query (entries : Entries) : Except Failure Text := do
  .ok (Text.joined ['&'] (← entries.mapM queryItem))

/--
Whether a method takes its data in the query. Only text and octets have a case to fold, and
octets are no such method.
-/
def queries (method : Value) : Except Failure Bool :=
  match method with
  | .str method => .ok (withoutBody.contains (Text.upper method))
  | .bytes _ => .ok false
  | other => .error (.noMember other.kindName "upper".toList)

/-- The request of one call of a template. -/
def build (segments : List Route.Segment) (method data : Value) : Except Failure Request :=
  match data with
  | .dict entries => do
    let (url, rest) ← Route.fill segments entries
    if ← queries method then
      let query ← query rest
      .ok ⟨if query.isEmpty then url else url ++ '?' :: query, .null⟩
    else
      .ok ⟨url, .str (← Json.write (.dict rest))⟩
  | .list _ | .tuple _ => do
    let (url, _) ← Route.fill segments []
    .ok ⟨url, .str (← Json.write data)⟩
  | other => do
    let (url, _) ← Route.fill segments []
    .ok ⟨url, other⟩

end Request

end ControllerClient
