import ControllerClient.Dispatch.BoundEndpoint

/-!
Sessions: sets of hooks, the way requests are sent, and the tables of endpoints
that use them. Hooks are looked up when an endpoint is called, so that a hook
assigned later counts for tables made earlier. The set with number zero is
shared by all tables that are made without hooks of their own. Requests that
nothing else is given for go over a network that is a parameter of the session.
-/

namespace ControllerClient

/-- Endpoints with the number of the hooks they use and their own way to send requests, if any. -/
structure Api where
  endpoints : Table BoundEndpoint
  hooks : Nat
  fetch : Option Fetch

structure Session where
  hooks : List Hooks
  /-- What sends requests in place of the network. -/
  fetch : Option Fetch
  apis : List Api

namespace Session

/-- The number of the hooks that are shared. -/
def sharedHooks : Nat := 0

def initial : Session := ⟨[{}], none, []⟩

def hooksAt (session : Session) (number : Nat) : Hooks := session.hooks.getD number {}

def fetchOf (network : Fetch) (session : Session) (api : Api) : Fetch :=
  (api.fetch.orElse fun _ => session.fetch).getD network

inductive Step where
  | makeHooks (hooks : Hooks)
  | assign (number : Nat) (change : HookChange)
  | replaceFetch (fetch : Option Fetch)
  | create (prefixUrl : Value) (rows : Table Value) (hooks : Option Nat) (fetch : Option Fetch)
  | call (api : Nat) (name : Text) (data options : Value)

inductive Reply where
  | done
  | made (number : Nat)
  | failed (failure : Failure)
  | called (events : List Event) (result : Except Failure Answer)

def makeHooks (session : Session) (hooks : Hooks) : Session × Nat :=
  ({ session with hooks := session.hooks ++ [hooks] }, session.hooks.length)

def assign (session : Session) (number : Nat) (change : HookChange) : Session :=
  { session with hooks := session.hooks.modify number fun hooks => hooks.assign change }

def create (session : Session) (prefixUrl : Value) (rows : Table Value) (hooks : Option Nat)
    (fetch : Option Fetch) : Except Failure Session := do
  let endpoints ← BoundEndpoint.ofRows prefixUrl rows
  .ok { session with apis := session.apis ++ [⟨endpoints, hooks.getD sharedHooks, fetch⟩] }

def call (network : Fetch) (session : Session) (api : Api) (endpoint : BoundEndpoint)
    (data options : Value) : Traced Event Answer :=
  endpoint.call (session.hooksAt api.hooks) (session.fetchOf network api) data options

def step (network : Fetch) (session : Session) : Step → Session × Reply
  | .makeHooks hooks =>
    let (session, number) := session.makeHooks hooks
    (session, .made number)
  | .assign number change => (session.assign number change, .done)
  | .replaceFetch fetch => ({ session with fetch }, .done)
  | .create prefixUrl rows hooks fetch =>
    match session.create prefixUrl rows hooks fetch with
    | .ok later => (later, .made session.apis.length)
    | .error failure => (session, .failed failure)
  | .call api name data options =>
    match session.apis[api]? with
    | none => (session, .done)
    | some api =>
      match api.endpoints.lookup name with
      | none => (session, .failed (.missingKey (.str name)))
      | some endpoint =>
        let answer := session.call network api endpoint data options
        (session, .called answer.events answer.result)

def replies (network : Fetch) (session : Session) : List Step → List Reply
  | [] => []
  | first :: later =>
    let (session, reply) := session.step network first
    reply :: replies network session later

end Session

end ControllerClient
