import ControllerClient.Disk
import ControllerClient.Json.Reader
import ControllerClient.Value.Written

/-!
The settings of a project. They stand in a file at the project's root; the
nearest such file at or above the working directory counts, and it may point to
another directory as the project's root. Settings are kept once they are read.
-/

namespace ControllerClient

structure Config where
  projectRoot : Path
  distRoot : Value
  srcRoot : Value
  aliasName : Value
  base : Value
  suffix : Value
  root : Value
deriving Repr

namespace Config

def fileName : Text := "full-stack.json".toList

def ofEntries (projectRoot : Path) (entries : Entries) : Config :=
  let setting (name : String) (default : Value) := (entries.field? name.toList).getD default
  { projectRoot
    distRoot := setting "routeDistRoot" (.str ['.'])
    srcRoot := setting "routeSrcRoot" (.str ['.'])
    aliasName := setting "alias" (.str "apis".toList)
    base := setting "base" (.str [])
    suffix := setting "suffix" (.str [])
    root := setting "root" .null }

/-- A directory continued by a setting, which has to be text. -/
def continued (directory : Path) (setting : Value) : Except Failure Path :=
  match setting with
  | .str text => .ok (directory.joinText text)
  | other => .error (.kind (.operands "/".toList "PosixPath".toList other.kindName))

/-- The directory that routes are counted from, for the built or for the source files. -/
def routeRoot (config : Config) (disk : Disk) (variant : Value) : Except Failure Path :=
  match variant with
  | .str variant =>
    if variant = "dist".toList then do
      disk.resolve (← continued config.projectRoot config.distRoot)
    else if variant = "src".toList then do
      disk.resolve (← continued config.projectRoot config.srcRoot)
    else .error (.unknownVariant (.str variant))
  | other => do .error (.unknownVariant (← other.limited other))

def fileIn (directory : Path) : Path := directory.join (.relative [fileName])

/--
The nearest file of settings at or above a directory, which is the working directory unless
given.
-/
def find (disk : Disk) (directory : Option Path) : Except Failure Path := do
  let directory ← disk.resolve (directory.getD (Path.absolute disk.here))
  match (directory.ancestors.map fileIn).find? disk.isFile with
  | some file => .ok file
  | none => .error (.configNotFound directory.text)

def readEntries (disk : Disk) (file : Path) : Except Failure Entries := do
  match ← Json.read (← disk.readText file) with
  | .dict entries => .ok entries
  | other => .error (.noMember other.kindName "get".toList)

def findProjectRoot (disk : Disk) (directory : Option Path) : Except Failure Path := do
  let file ← find disk directory
  let entries ← readEntries disk file
  let root := (entries.field? "root".toList).getD .null
  if root.isTruthy then disk.resolve (← continued file.parent root)
  else .ok file.parent

def read (disk : Disk) (projectRoot : Path) : Except Failure Config := do
  let file := fileIn projectRoot
  if disk.isFile file then .ok (ofEntries projectRoot (← readEntries disk file))
  else .error (.configNotFound projectRoot.text)

abbrev Kept := List (Path × Config)

def load (disk : Disk) (kept : Kept) (directory : Option Path) :
    Except Failure (Config × Kept) := do
  let projectRoot ← findProjectRoot disk directory
  match kept.lookup projectRoot with
  | some config => .ok (config, kept)
  | none =>
    let config ← read disk projectRoot
    .ok (config, (projectRoot, config) :: kept)

end Config

end ControllerClient
