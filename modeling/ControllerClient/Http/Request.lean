import ControllerClient.Dispatch.Traced
import ControllerClient.Http.Headers
import ControllerClient.Http.Parameters
import ControllerClient.Json.Wide
import ControllerClient.Text.Uppercase

/-!
Requests as they are sent, made from what a caller asks for.
-/

namespace ControllerClient.Http

def requestOptions : List Text :=
  ["data", "files", "json", "params", "headers", "cookies", "auth", "follow_redirects", "timeout",
    "extensions"].map String.toList

def optionFault? (name : Value) : Option KindFault :=
  match name with
  | .str name =>
    if name = "url".toList ∨ name = "method".toList then some (.repeatedArgument name)
    else if requestOptions.contains name then none
    else some (.requestArgument name)
  | _ => none

def isText : Value → Bool
  | .str _ => true
  | _ => false

def checkOptions (options : Entries) : Except Failure Unit :=
  if (options.field? "content".toList).isSome then .error (.kind .repeatedContent)
  else if options.any fun (name, _) => !isText name then .error (.kind .keywordNotText)
  else match options.findSome? fun (name, _) => optionFault? name with
    | some fault => .error (.kind fault)
    | none => .ok ()

/-- The content of a request; `streamed` is content that comes in pieces. -/
inductive Content where
  | octets (content : List UInt8)
  | streamed
deriving DecidableEq, Repr

def Content.ofValue (body : Value) : Except Failure Content :=
  match body with
  | .null => .ok (.octets [])
  | .str text => (Text.utf8 text).map .octets
  | .bytes content => .ok (.octets content)
  | .list _ | .tuple _ | .set _ => .ok .streamed
  | other => .error (.kind (.requestContent other.kindName))

def Content.header? : Content → Option (String × Text)
  | octets [] => none
  | octets content => some ("content-length", Text.ofNat content.length)
  | streamed => some ("transfer-encoding", "chunked".toList)

structure Payload where
  content : Content
  type : Option Text
deriving DecidableEq, Repr

def Payload.untyped (content : Content) : Payload := ⟨content, none⟩

def Payload.form (fields : Entries) : Except Failure Payload := do
  let groups ← fields.mapM fun (name, value) => do
    let name ← name.limited name.asText
    .ok ((← Parameters.valuesOf value).map (name, ·))
  let written ← Parameters.quotedPairs groups.flatten
  .ok ⟨.octets (Utf8.encode written), some "application/x-www-form-urlencoded".toList⟩

def Payload.document (value : Value) : Except Failure Payload := do
  let written := Json.withWideCharacters (← Json.write value)
  .ok ⟨.octets (← Text.utf8 written), some "application/json".toList⟩

def isNull : Value → Bool
  | .null => true
  | _ => false

def isPlainContent : Value → Bool
  | .null | .dict _ => false
  | _ => true

def Payload.inPlaceOfBody (form document : Value) : Except Failure Payload :=
  match form, document with
  | .dict (field :: fields), _ => Payload.form (field :: fields)
  | _, .null => .ok (.untyped (.octets []))
  | _, document => Payload.document document

/-- What a request carries: its body, unless the options give something else and there is none. -/
def Payload.ofOptions (body form document : Value) : Except Failure Payload :=
  if isPlainContent form then (Content.ofValue form).map .untyped
  else if isNull body then Payload.inPlaceOfBody form document
  else (Content.ofValue body).map .untyped

def cookieText (name value : Value) : Except Failure Text :=
  match value with
  | .null => .ok name.asText
  | .str value => .ok (name.asText ++ '=' :: value)
  | .bytes _ => .error (.kind .mixedPattern)
  | other => .error (.kind (.notText other.kindName))

def cookiesIn : Value → Except Failure Entries
  | .dict entries => .ok entries
  | .list items => do .ok (Entries.ofPairs (← items.mapM Value.pair))
  | other =>
    match other.items? with
    | some (item :: _) => .error (.noMember item.kindName "domain".toList)
    | some [] => .ok []
    | none => .error (.kind (.notIterable other.kindName))

def cookiesOf (value : Value) : Except Failure Entries :=
  if value.isTruthy then cookiesIn value else .ok []

/-- The header of cookies, unless there is one; only an address with a type takes cookies. -/
def withCookies (headers : Headers) (address : Address) (cookies : Entries) :
    Except Failure Headers :=
  if cookies.isEmpty then .ok headers
  else do
    Address.checkType address.text
    let written ← cookies.mapM fun (name, value) => cookieText name value
    if headers.has "cookie" then .ok headers
    else
      .ok (headers.withDefault "cookie"
        (← headers.coding.encode (Text.joined "; ".toList written)))

def saysEmpty : Value → Bool
  | .str method => ["POST".toList, "PUT".toList, "PATCH".toList].contains method
  | _ => false

def completed (headers : Headers) (method : Value) (address : Address) (payload : Payload) :
    Headers :=
  let framed := headers.has "content-length" || headers.has "transfer-encoding"
  let headers := match payload.content.header? with
    | some (name, value) =>
      if name = "transfer-encoding" && headers.has "content-length" then headers
      else headers.withDefault name value
    | none => headers
  let headers := match payload.type with
    | some type => headers.withDefault "content-type" type
    | none => headers
  let framed := framed || payload.content.header?.isSome
  let host := if headers.has "host" || address.host.isEmpty then []
    else [("host".toList, address.netloc)]
  let length := if framed || !saysEmpty method then []
    else [("content-length".toList, ['0'])]
  host ++ length ++ headers

def sixBits (n : Nat) : Char :=
  if n < 26 then Char.ofNat (65 + n)
  else if n < 52 then Char.ofNat (71 + n)
  else if n < 62 then Char.ofNat (n - 4)
  else if n = 62 then '+' else '/'

def base64 : List UInt8 → Text
  | a :: b :: c :: rest =>
    let n := (a.toNat * 256 + b.toNat) * 256 + c.toNat
    sixBits (n / 262144) :: sixBits (n / 4096 % 64) :: sixBits (n / 64 % 64) :: sixBits (n % 64)
      :: base64 rest
  | [a, b] =>
    let n := a.toNat * 256 + b.toNat
    [sixBits (n / 1024), sixBits (n / 16 % 64), sixBits (n % 16 * 4), '=']
  | [a] => [sixBits (a.toNat / 4), sixBits (a.toNat % 4 * 16), '=', '=']
  | [] => []

def authorization (user password : List UInt8) : Text :=
  "Basic ".toList ++ base64 (user ++ 58 :: password)

def credentials (userinfo : Text) : List UInt8 × List UInt8 :=
  let (user, password) := Address.cutAt ':' userinfo
  let plain (text : Text) :=
    Utf8.encode (Utf8.decodeReplacing (Parameters.unquoted
      (text.flatMap fun c => if c = '+' then "%2B".toList else [c])))
  (plain user, plain (password.getD []))

def secret : Value → Except Failure (List UInt8)
  | .str text => Text.utf8 text
  | .bytes content => .ok content
  | other => .error (.noMember other.kindName "encode".toList)

def authorized (headers : Headers) (auth : Value) (address : Address) : Except Failure Headers :=
  match auth with
  | .null =>
    let (user, password) := credentials address.userinfo
    if user.isEmpty && password.isEmpty then .ok headers
    else .ok (headers.filter (·.1 != "authorization".toList)
      ++ [("authorization".toList, authorization user password)])
  | .tuple [user, password] => do
    let user ← secret user
    let password ← secret password
    .ok (headers.filter (·.1 != "authorization".toList)
      ++ [("authorization".toList, authorization user password)])
  | other => do .error (.kind (.authorization (← other.limited other.shown)))

def addressOf : Value → Except Failure Address
  | .str text => Address.ofText text none
  | other => do .error (.kind (.addressKind other.kindName (← other.limited other.shown)))

def capitalOctet (octet : UInt8) : UInt8 :=
  if 97 ≤ octet ∧ octet ≤ 122 then octet - 32 else octet

def methodOf : Value → Except Failure Value
  | .str method => .ok (.str (Text.upper method))
  | .bytes method => .ok (.bytes (method.map capitalOctet))
  | other => .error (.noMember other.kindName "upper".toList)

def parametersOf (options : Entries) : Except Failure (Option (Option Parameters.Grouped)) :=
  match options.field? "params".toList with
  | none | some .null => .ok none
  | some value => (Parameters.ofValue value).map some

def withParameters (address : Address) (parameters : Option (Option Parameters.Grouped)) :
    Except Failure Address :=
  match parameters with
  | none => .ok address
  | some groups => do address.withQuery (← groups.mapM Parameters.toQuery)

structure Prepared where
  sent : Sent
  address : Address
  isStreamed : Bool

def prepare (base : Address) (method : Value) (url : Text) (body : Value) (options : Entries) :
    Except Failure Prepared := do
  checkOptions options
  let option (name : String) : Value := (options.field? name.toList).getD .null
  let address ← base.continuing (← Address.ofText url none)
  let headers ← Headers.ofValue (option "headers")
  let cookies ← cookiesOf (option "cookies")
  let parameters ← parametersOf options
  let method ← methodOf method
  let address ← withParameters address parameters
  let headers ← withCookies headers address cookies
  let payload ← Payload.ofOptions body (option "data") (option "json")
  let headers := completed headers method address payload
  let headers ← authorized headers (option "auth") address
  .ok { sent :=
          { method, headers
            url := address.text
            body := match payload.content with
              | .octets content => content
              | .streamed => [] }
        address
        isStreamed := payload.content = .streamed }

end ControllerClient.Http
