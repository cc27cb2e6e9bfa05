import ControllerClient.Dispatch.Network
import ControllerClient.Http.Request

/-!
A client whose settings name a base address and what stands in for the network. No request
reaches the network itself: without a stand-in an address that could be sent to fails to connect.
-/

namespace ControllerClient.Http

def baseOf (settings : Entries) : Except Failure Address := do
  (← addressOf ((settings.field? "base_url".toList).getD (.str []))).asBase

def transportOf (settings : Entries) : Except Failure (Option Transport) :=
  match settings.field? "transport".toList with
  | none | some .null => .ok none
  | some (.transport transport) => .ok (some transport)
  | some other => .error (.noMember other.kindName "__aenter__".toList)

def unreachable (address : Address) : Failure :=
  if address.scheme.isEmpty then .request .missingProtocol
  else if address.scheme = "http".toList ∨ address.scheme = "https".toList then
    .raised ⟨.connection, "All connection attempts failed".toList⟩
  else .request (.unsupportedProtocol address.scheme)

/--
What a stand-in for the network answers to a request. The cookies of an answer are looked
through, so that the address must name its type.
-/
def deliver (transport : Option Transport) (prepared : Prepared) : Traced Sent Value :=
  if prepared.isStreamed then .failed (.request .synchronousBody)
  else match transport with
    | none => .failed (unreachable prepared.address)
    | some transport => do
      Traced.observed prepared.sent
      match transport.raised with
      | some raised => .failed (.raised raised)
      | none => do
        Address.checkType prepared.sent.url
        pure (.response transport.response)

def client (outgoing : Outgoing) : Traced Sent Value := do
  let base ← baseOf outgoing.settings
  let transport ← transportOf outgoing.settings
  let prepared ← prepare base outgoing.method outgoing.url outgoing.content outgoing.options
  deliver transport prepared

end ControllerClient.Http
