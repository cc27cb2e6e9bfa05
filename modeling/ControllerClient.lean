import ControllerClient.Http.Client
import ControllerClient.Main
import ControllerClient.Proofs.Client.Running
import ControllerClient.Proofs.Client.Wildcards
import ControllerClient.Proofs.CommandLine
import ControllerClient.Proofs.Config.Lookup
import ControllerClient.Proofs.Controller.Denoting
import ControllerClient.Proofs.Controller.Discovery
import ControllerClient.Proofs.Controller.Endpoints
import ControllerClient.Proofs.Controller.Prefixes
import ControllerClient.Proofs.Controller.Skeleton
import ControllerClient.Proofs.Dispatch.Binding
import ControllerClient.Proofs.Dispatch.Protocol
import ControllerClient.Proofs.Dispatch.Sending
import ControllerClient.Proofs.Finder.Aliases
import ControllerClient.Proofs.Module.Importing
import ControllerClient.Proofs.Module.Stack
import ControllerClient.Proofs.Request.Query
import ControllerClient.Proofs.Route.Address
import ControllerClient.Proofs.Route.Cutting
import ControllerClient.Proofs.Route.Convention
import ControllerClient.Proofs.Route.Joining
