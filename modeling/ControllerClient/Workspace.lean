import ControllerClient.CommandLine
import ControllerClient.Dispatch.Session
import ControllerClient.Module

/-!
Workspaces: a disk, the settings read from it, the hooks of calls, and the
modules imported so far. Every operation gives the workspace that it leaves.
-/

namespace ControllerClient

structure Workspace where
  disk : Disk
  kept : Config.Kept
  session : Session
  modules : Modules
  /-- How many finders have been made. -/
  finders : Nat
  /-- The finder made last and its number. -/
  current : Option (Nat × Finder)

namespace Workspace

def onDisk (disk : Disk) : Workspace :=
  { disk, kept := [], session := .initial, modules := .empty, finders := 0, current := none }

def loadConfig (workspace : Workspace) (directory : Option Path) :
    Workspace × Except Failure Config :=
  match Config.load workspace.disk workspace.kept directory with
  | .ok (config, kept) => ({ workspace with kept }, .ok config)
  | .error failure => (workspace, .error failure)

def configOr (workspace : Workspace) : Option Config → Workspace × Except Failure Config
  | some config => (workspace, .ok config)
  | none => workspace.loadConfig none

def forgetConfigs (workspace : Workspace) : Workspace := { workspace with kept := [] }

def routeRoot (workspace : Workspace) (variant : Value) (directory : Option Path) :
    Workspace × Except Failure Path :=
  let (workspace, config) := workspace.loadConfig directory
  (workspace, config.bind fun config => config.routeRoot workspace.disk variant)

def routeOf (workspace : Workspace) (variant : Value) (file : Path) (config : Option Config) :
    Workspace × Except Failure Text :=
  let (workspace, config) := workspace.configOr config
  (workspace, config.bind fun config => Route.ofFile workspace.disk config variant file)

def prefixOf (workspace : Workspace) (controller : Controller) (file : Text)
    (config : Option Config) : Workspace × Except Failure Text :=
  match controller.routePrefix with
  | .written text => (workspace, .ok text)
  | .ofLocation => workspace.routeOf (.str "src".toList) (Path.ofText file) config

def describe (workspace : Workspace) (file source : Text) (config : Option Config) :
    Workspace × Except Failure (Controller × Text) :=
  match Controller.ofSource file source with
  | .error failure => (workspace, .error failure)
  | .ok controller =>
    let (workspace, routePrefix) := workspace.prefixOf controller file config
    (workspace, routePrefix.map fun routePrefix => (controller, routePrefix))

/-- The text of a controller file's client; its source text is read unless it is given. -/
def clientCode (workspace : Workspace) (file : Text) (source : Option Text)
    (config : Option Config) : Workspace × Except Failure Text :=
  match workspace.configOr config with
  | (workspace, .error failure) => (workspace, .error failure)
  | (workspace, .ok config) =>
    (workspace, do
      let source ← match source with
        | some source => .ok source
        | none => workspace.disk.readText (Path.ofText file)
      Controller.clientCode workspace.disk config file source)

def runCommand (workspace : Workspace) (paths : List Text) : Workspace × CommandLine.Run :=
  let (run, kept) := CommandLine.run workspace.disk workspace.kept paths
  ({ workspace with kept }, run)

def makeFinder (workspace : Workspace) (config : Option Config) (aliasName : Value) :
    Workspace × Except Failure Finder :=
  match workspace.configOr config with
  | (workspace, .error failure) => (workspace, .error failure)
  | (workspace, .ok config) =>
    match Finder.ofConfig workspace.disk config aliasName with
    | .error failure => (workspace, .error failure)
    | .ok finder =>
      ({ workspace with finders := workspace.finders + 1
                        current := some (workspace.finders, finder) }, .ok finder)

def install (workspace : Workspace) (config : Option Config) (aliasName : Value) :
    Workspace × Except Failure Finder :=
  match workspace.makeFinder config aliasName with
  | (workspace, .error failure) => (workspace, .error failure)
  | (later, .ok finder) =>
    ({ later with modules := later.modules.install workspace.finders finder }, .ok finder)

def uninstall (workspace : Workspace) (number : Nat) (finder : Finder) :
    Workspace × Except Failure Unit :=
  let (modules, result) := workspace.modules.uninstall number finder
  ({ workspace with modules }, result)

def importName (workspace : Workspace) (name : Text) : Workspace × Except Failure Module :=
  let (modules, result) := workspace.modules.importName workspace.disk name
  ({ workspace with modules }, result)

def call (network : Fetch) (workspace : Workspace) (endpoint : BoundEndpoint)
    (data options : Value) : Traced Event Answer :=
  workspace.session.call network ⟨[], Session.sharedHooks, none⟩ endpoint data options

end Workspace

end ControllerClient
