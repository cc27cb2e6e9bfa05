import ControllerClient.Client
import ControllerClient.Controller
import ControllerClient.Dispatch.Hooks
import ControllerClient.Dispatch.Network
import ControllerClient.Request

/-!
Endpoints that can be called. A call makes a request of its data and options,
lets the hooks see it, sends it and hands any failure to the hook for failures,
once.
-/

namespace ControllerClient

/-- An endpoint with its verb and its whole path template. -/
structure BoundEndpoint where
  verb : Value
  url : Text
deriving Repr

namespace BoundEndpoint

def templateOf (prefixUrl path : Value) : Except Failure Text := do
  match ← prefixUrl.concat path with
  | .str url => .ok url
  | .bytes _ => .error (.kind .mixedPattern)
  | other => .error (.kind (.notText other.kindName))

def ofRow (prefixUrl row : Value) : Except Failure BoundEndpoint := do
  let endpoint ← Endpoint.ofValue row
  .ok ⟨endpoint.verb, ← templateOf prefixUrl endpoint.path⟩

def ofRows (prefixUrl : Value) : Table Value → Except Failure (Table BoundEndpoint)
  | [] => .ok []
  | (name, row) :: rest => do
    let endpoint ← ofRow prefixUrl row
    .ok ((name, endpoint) :: (← ofRows prefixUrl rest))

def segments (endpoint : BoundEndpoint) : List Route.Segment := Route.Segment.split endpoint.url

/-- Whether the path of an endpoint is more than a plain template, so that it cannot be called. -/
def isWildcard (endpoint : BoundEndpoint) : Bool :=
  match endpoint.verb with
  | .str verb => verb = Controller.wildcardVerb
  | _ => false

def requestOf (endpoint : BoundEndpoint) (data options : Value) :
    Except Failure (Entries × Request) :=
  if endpoint.isWildcard then .error (.unsupportedRoute endpoint.url)
  else do
    let options := Options.withMethod (← Options.ofValue options) endpoint.verb
    let request ← Request.build endpoint.segments (← Options.method options) data
    .ok (options, request)

/--
The options that a request is sent with: those that the hook leaves, which must hold a
method.
-/
def sendable (hooks : Hooks) (request : Request) (options : Entries) : Except Failure Entries := do
  let options ← hooks.runBeforeRequest options
  let _ ← Options.method options
  .ok (Options.withBody options request.body)

def exchange (endpoint : BoundEndpoint) (hooks : Hooks) (fetch : Fetch) (data options : Value) :
    Traced Event Value := do
  let (options, request) ← endpoint.requestOf data options
  Traced.observed (.beforeRequest options)
  let options ← sendable hooks request options
  Traced.observed (.fetch request.url options)
  let answer ← Traced.within .sent (fetch request.url options)
  Traced.observed (.responded answer)
  hooks.runResponded answer

/-- What becomes of a failure: the hook for failures decides, unless the call was cancelled. -/
def captured (hooks : Hooks) (failure : Failure) : Traced Event Answer :=
  if failure.isHandled then do
    Traced.observed (.errorCaptured failure)
    hooks.runErrorCaptured failure
  else .failed failure

def call (endpoint : BoundEndpoint) (hooks : Hooks) (fetch : Fetch) (data options : Value) :
    Traced Event Answer :=
  Traced.orElse (Answer.value <$> endpoint.exchange hooks fetch data options) (captured hooks)

end BoundEndpoint

end ControllerClient
