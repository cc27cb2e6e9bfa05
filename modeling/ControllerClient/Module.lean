import ControllerClient.Client.Module
import ControllerClient.Finder

/-!
The modules of a program: finders that are installed, newest first, the importers
that it began with, and the modules that were imported. A module is imported once,
after everything above it, and a module that is no package has nothing below it.
-/

namespace ControllerClient

inductive Module where
  | package (directory : Path)
  | client (module : ClientModule)
deriving Repr

/-- What imports names besides the finders: the module of a name that it knows. -/
abbrev Importer := Disk → Text → Except Failure (Option Module)

structure Modules where
  /-- The installed finders with their numbers, newest first. -/
  installed : List (Nat × Finder)
  loaded : Table Module
  /-- The importers that a program begins with; they are asked after all finders. -/
  original : List Importer := []

namespace Modules

def empty : Modules := { installed := [], loaded := [] }

def install (modules : Modules) (number : Nat) (finder : Finder) : Modules :=
  { modules with installed := (number, finder) :: modules.installed }

def isInstalled (modules : Modules) (number : Nat) : Bool :=
  modules.installed.any (·.1 == number)

def withoutFinder (modules : Modules) (number : Nat) : Modules :=
  { modules with installed := modules.installed.eraseP (·.1 == number) }

def ownedNames (finder : Finder) (owned : Bool) : Table Module → Except Failure (Table Module)
  | [] => .ok []
  | (name, module) :: rest => do
    let isOwned ← finder.owns name
    let later ← ownedNames finder owned rest
    .ok (if isOwned = owned then (name, module) :: later else later)

def forget (modules : Modules) (finder : Finder) : Except Failure Modules := do
  let _ ← finder.ownedPrefix
  .ok { modules with loaded := ← ownedNames finder false modules.loaded }

def uninstall (modules : Modules) (number : Nat) (finder : Finder) :
    Modules × Except Failure Unit :=
  let modules := modules.withoutFinder number
  match modules.forget finder with
  | .ok forgotten => (forgotten, .ok ())
  | .error failure => (modules, .error failure)

def namesOwned (modules : Modules) (finder : Finder) : Except Failure (List Text) := do
  let _ ← finder.ownedPrefix
  .ok ((← ownedNames finder true modules.loaded).map (·.1))

def locateIn (disk : Disk) (name : Text) :
    List (Nat × Finder) → Except Failure (Option (Finder × Location))
  | [] => .ok none
  | (_, finder) :: later => do
    match ← finder.locate disk name with
    | some location => .ok (some (finder, location))
    | none => locateIn disk name later

def runController (finder : Finder) (disk : Disk) (id : Text) : Except Failure Module := do
  let source ← disk.readText (Path.ofText ((Finder.fileOf? id).getD id))
  match ← finder.transform disk source id with
  | some code => do .ok (.client (← ClientModule.ofCode code))
  | none => .error .malformedSource

def runLocation (finder : Finder) (disk : Disk) : Location → Except Failure Module
  | .package directory => .ok (.package directory)
  | .controller id => runController finder disk id

/-- The module of a name that no finder owns: the first importer that knows it gives it. -/
def findAmong (disk : Disk) (name : Text) : List Importer → Except Failure Module
  | [] => .error (.noModule name none)
  | importer :: later => do
    match ← importer disk name with
    | some module => .ok module
    | none => findAmong disk name later

def find (modules : Modules) (disk : Disk) (name : Text) : Except Failure Module := do
  match ← locateIn disk name modules.installed with
  | some (finder, location) => runLocation finder disk location
  | none => findAmong disk name modules.original

def checkParent (modules : Modules) (name : Text) : List Text → Except Failure Unit
  | [] => .ok ()
  | parent :: _ =>
    match modules.loaded.lookup parent with
    | some (.client _) => .error (.noModule name (some parent))
    | _ => .ok ()

def load (modules : Modules) (disk : Disk) (name : Text) (parents : List Text) :
    Modules × Except Failure Module :=
  match (do modules.checkParent name parents; modules.find disk name) with
  | .error failure => (modules, .error failure)
  | .ok module =>
    ({ modules with loaded := Table.insert modules.loaded name module }, .ok module)

/-- Imports the first of some names, each of which is followed by its parents, longest first. -/
def loadChain (modules : Modules) (disk : Disk) :
    List Text → Modules × Except Failure (Option Module)
  | [] => (modules, .ok none)
  | name :: parents =>
    match modules.loaded.lookup name with
    | some module => (modules, .ok (some module))
    | none =>
      match modules.loadChain disk parents with
      | (modules, .error failure) => (modules, .error failure)
      | (modules, .ok _) =>
        let (modules, result) := modules.load disk name parents
        (modules, result.map some)

def chainOf (name : Text) : List Text :=
  let parts := Text.pieces '.' name
  (List.range parts.length).reverse.map fun n => Text.joined ['.'] (parts.take (n + 1))

def importName (modules : Modules) (disk : Disk) (name : Text) : Modules × Except Failure Module :=
  match name with
  | [] => (modules, .error (.shape .emptyModuleName))
  | '.' :: _ => (modules, .error (.kind (.relativeImport name)))
  | _ =>
    match modules.loadChain disk (chainOf name) with
    | (modules, .ok (some module)) => (modules, .ok module)
    | (modules, .ok none) => (modules, .error (.noModule name none))
    | (modules, .error failure) => (modules, .error failure)

def tableEndpoint (name key : Text) : Module → Except Failure BoundEndpoint
  | .package _ => .error (.noModuleMember name Client.tableName)
  | .client module =>
    match module.endpoints.lookup key with
    | some endpoint => .ok endpoint
    | none => .error (.missingKey (.str key))

def namedEndpoint (modules : Modules) (name member : Text) : Module → Except Failure BoundEndpoint
  | .package _ =>
    if (modules.loaded.lookup (name ++ '.' :: member)).isSome then
      .error (.kind (.notCallable "module".toList))
    else .error (.noModuleMember name member)
  | .client module =>
    match module.members.lookup member with
    | some (.endpoint _ endpoint) => .ok endpoint
    | some (.table _) => .error (.kind (.notCallable "dict".toList))
    | some (.value value) => .error (.kind (.notCallable value.kindName))
    | some .maker => .error (.kind (.notCallable "function".toList))
    | none => .error (.noModuleMember name member)

end Modules

end ControllerClient
