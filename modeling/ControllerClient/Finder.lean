import ControllerClient.Controller

/-!
Finders: import names under an alias stand for controller files below a search
root. The last parts of a name may be a file name with dots in it, so one name
has several candidates; the one in the deepest directory wins. A directory, or
the beginning of a dotted file name, is a package.
-/

namespace ControllerClient

structure Finder where
  config : Config
  /-- The first part of the names that the finder owns. -/
  aliasName : Value
  searchRoot : Path
deriving Repr

inductive Location where
  | package (directory : Path)
  | controller (id : Text)
deriving DecidableEq, Repr

namespace Finder

def ofConfig (disk : Disk) (config : Config) (aliasName : Value) : Except Failure Finder := do
  .ok { config
        aliasName := if aliasName.isTruthy then aliasName else config.aliasName
        searchRoot := ← config.routeRoot disk (.str "src".toList) }

def isAlias (finder : Finder) (name : Text) : Bool := finder.aliasName.sameKey (.str name)

def ownedPrefix (finder : Finder) : Except Failure Text := do
  match ← finder.aliasName.concat (.str ['.']) with
  | .str text => .ok text
  | other => .error (.kind (.notText other.kindName))

def owns (finder : Finder) (name : Text) : Except Failure Bool :=
  if finder.isAlias name then .ok true
  else do .ok (Text.after? (← finder.ownedPrefix) name).isSome

def partsOf (name : Text) : List Text := (Text.pieces '.' name).tail

def extension : Text := ".py".toList

def directoryOf (finder : Finder) (parts : List Text) : Path :=
  parts.foldl Path.joinText finder.searchRoot

/-- The file that parts stand for when the first `depth` of them are directories. -/
def candidate (finder : Finder) (parts : List Text) (depth : Nat) : Path :=
  (finder.directoryOf (parts.take depth)).joinText
    (Text.joined ['.'] (parts.drop depth) ++ extension)

/-- The files that a name may stand for, the one in the deepest directory first. -/
def candidates (finder : Finder) (name : Text) : List Path :=
  let parts := partsOf name
  (List.range parts.length).reverse.map (finder.candidate parts)

def findFile (finder : Finder) (disk : Disk) (name : Text) : Option Path :=
  (finder.candidates name).find? disk.isFile

def longerNames (parts : List Text) : Text :=
  Text.joined ['.'] parts ++ ".*".toList ++ extension

/--
Whether parts begin the name of a file when the first of them, from one depth on, are
directories.
-/
def beginsFile (finder : Finder) (disk : Disk) (parts : List Text) : List Nat → Except Failure Bool
  | [] => .ok false
  | depth :: later => do
    let found ← disk.glob (finder.directoryOf (parts.take depth)) (longerNames (parts.drop depth))
    if found.any disk.isFile then .ok true else finder.beginsFile disk parts later

/-- Whether a name is the beginning of a dotted file name. -/
def isDottedPrefix (finder : Finder) (disk : Disk) (name : Text) : Except Failure Bool :=
  let parts := partsOf name
  finder.beginsFile disk parts (List.range parts.length)

def marker : Text := "?_api".toList

def idOf (file : Path) : Text := file.text ++ marker

def fileOf? (id : Text) : Option Text :=
  (Text.after? marker.reverse id.reverse).map List.reverse

/-- The id that a name stands for; names of others and the alias itself stand for none. -/
def resolve (finder : Finder) (disk : Disk) (name : Text) : Except Failure (Option Text) := do
  if !(← finder.owns name) || finder.isAlias name then .ok none
  else match finder.findFile disk name with
    | some file => .ok (some (idOf file))
    | none => .error (.unresolvableModule name finder.searchRoot.text)

def isPackage (finder : Finder) (disk : Disk) (name : Text) : Except Failure Bool :=
  if finder.isAlias name || disk.isDirectory (finder.directoryOf (partsOf name)) then .ok true
  else finder.isDottedPrefix disk name

def isController (finder : Finder) (disk : Disk) (name : Text) : Bool :=
  !finder.isAlias name && (finder.findFile disk name).isSome

def locate (finder : Finder) (disk : Disk) (name : Text) : Except Failure (Option Location) := do
  if !(← finder.owns name) then .ok none
  else if finder.isController disk name then
    .ok ((← finder.resolve disk name).map .controller)
  else if ← finder.isPackage disk name then
    .ok (some (.package (finder.directoryOf (partsOf name))))
  else .ok ((← finder.resolve disk name).map .controller)

def transform (finder : Finder) (disk : Disk) (source id : Text) : Except Failure (Option Text) :=
  match fileOf? id with
  | none => .ok none
  | some file => do .ok (some (← Controller.clientCode disk finder.config file source))

end Finder

end ControllerClient
