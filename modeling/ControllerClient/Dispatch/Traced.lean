import ControllerClient.Failure
import ControllerClient.Table

/-!
What can be seen of a call while it runs, and computations that leave such
traces: each gives a result or fails, and what was seen before a failure stays.
-/

namespace ControllerClient

/-- A request as it goes over the network; its method is a text or octets, in capitals. -/
structure Sent where
  method : Value
  url : Text
  body : List UInt8
  headers : Table Text
deriving Repr

/-- What can be seen of a call: which function was given what, and what went over the network. -/
inductive Event where
  | beforeRequest (options : Entries)
  | fetch (url : Text) (options : Entries)
  | responded (answer : Value)
  | errorCaptured (failure : Failure)
  | sent (request : Sent)
deriving Repr

structure Traced (ε α : Type) where
  events : List ε
  result : Except Failure α

namespace Traced

variable {ε δ α β : Type}

def ofResult (result : Except Failure α) : Traced ε α := ⟨[], result⟩

def observed (event : ε) : Traced ε Unit := ⟨[event], .ok ()⟩

def failed (failure : Failure) : Traced ε α := ⟨[], .error failure⟩

def followedBy (first : Traced ε α) (next : α → Traced ε β) : Traced ε β :=
  match first.result with
  | .ok value =>
    let later := next value
    ⟨first.events ++ later.events, later.result⟩
  | .error failure => ⟨first.events, .error failure⟩

/-- A computation whose failure, if it has one, is handed to another. -/
def orElse (first : Traced ε α) (handle : Failure → Traced ε α) : Traced ε α :=
  match first.result with
  | .ok _ => first
  | .error failure =>
    let later := handle failure
    ⟨first.events ++ later.events, later.result⟩

def within (inject : ε → δ) (part : Traced ε α) : Traced δ α :=
  ⟨part.events.map inject, part.result⟩

instance : Monad (Traced ε) where
  pure value := ⟨[], .ok value⟩
  bind := followedBy

instance : MonadLift (Except Failure) (Traced ε) where
  monadLift := ofResult

end Traced

end ControllerClient
