import ControllerClient.Dispatch.Options
import ControllerClient.Dispatch.Traced

/-!
Requests over the network. Some of the options of a request are the settings of the client that
sends it; what the client does with these and with the others is its own affair.
-/

namespace ControllerClient

/--
Sends a request to an address with options that hold its method and its body; what can be
seen of it is what goes over the network.
-/
abbrev Fetch := Text → Entries → Traced Sent Value

structure Outgoing where
  settings : Entries
  method : Value
  url : Text
  content : Value
  options : Entries
deriving Repr

namespace Network

def settingNames : List Text := ["base_url", "transport"].map String.toList

def settingsOf (options : Entries) : Entries :=
  settingNames.filterMap fun name => (options.field? name).map (.str name, ·)

def withoutNames (options : Entries) (names : List Text) : Entries :=
  names.foldl (fun rest name => rest.erase (.str name)) options

def fetch (client : Outgoing → Traced Sent Value) : Fetch := fun url options => do
  let method ← Options.method options
  client
    { method, url
      settings := settingsOf options
      content := (options.field? Options.bodyName).getD .null
      options := withoutNames options (Options.methodName :: Options.bodyName :: settingNames) }

end Network

end ControllerClient
