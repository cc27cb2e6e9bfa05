import ControllerClient.Dispatch.Traced
import ControllerClient.Json.Octets

/-!
Hooks: what a caller wants done before a request, with its answer and with any
failure on the way. A hook that is not given leaves the options alone, reads the
answer as JSON, or lets the failure pass. A caller's function gives its result
at once or something to wait for; a hook is what comes of calling the function
and of waiting.
-/

namespace ControllerClient

/-- What a call gives back: a value, or a failure that a hook returned as its result. -/
inductive Answer where
  | value (value : Value)
  | failure (failure : Failure)
deriving Repr

/-- What a function gives when it is called: its result, or something to wait for. -/
inductive Returned (α : Type) where
  | value (value : α)
  /-- What comes of waiting. -/
  | awaitable (result : Except Failure α)
deriving Repr

/-- A function of the caller: it fails, gives its result or lets one wait for it. -/
abbrev Callback (α β : Type) := α → Except Failure (Returned β)

def Callback.invoke {α β : Type} (callback : Callback α β) (argument : α) : Except Failure β := do
  match ← callback argument with
  | .value value => .ok value
  | .awaitable result => result

abbrev BeforeRequest := Entries → Except Failure Entries

abbrev Responded := Value → Except Failure Value

abbrev ErrorCaptured := Failure → Except Failure Answer

structure Hooks where
  beforeRequest : Option BeforeRequest := none
  responded : Option Responded := none
  errorCaptured : Option ErrorCaptured := none

inductive HookChange where
  | beforeRequest (hook : Option BeforeRequest)
  | responded (hook : Option Responded)
  | errorCaptured (hook : Option ErrorCaptured)

namespace Hooks

def assign (hooks : Hooks) : HookChange → Hooks
  | .beforeRequest hook => { hooks with beforeRequest := hook }
  | .responded hook => { hooks with responded := hook }
  | .errorCaptured hook => { hooks with errorCaptured := hook }

def readAnswer (answer : Value) : Except Failure Value :=
  match answer with
  | .response response => Json.readOctets response.body
  | other => .error (.noMember other.kindName "json".toList)

def ofCallbacks (beforeRequest : Option (Callback Entries Entries))
    (responded : Option (Callback Value Value)) (errorCaptured : Option (Callback Failure Answer)) :
    Hooks :=
  { beforeRequest := beforeRequest.map Callback.invoke
    responded := responded.map Callback.invoke
    errorCaptured := errorCaptured.map Callback.invoke }

def runBeforeRequest (hooks : Hooks) : BeforeRequest := hooks.beforeRequest.getD .ok

def runResponded (hooks : Hooks) : Responded := hooks.responded.getD readAnswer

def runErrorCaptured (hooks : Hooks) : ErrorCaptured := hooks.errorCaptured.getD .error

end Hooks

end ControllerClient
