import ControllerClient.FileTree
import ControllerClient.Path.Pattern
import ControllerClient.Text.Encoding

/-!
A file tree together with the directory that relative paths are counted from.
-/

namespace ControllerClient

structure Disk where
  tree : FileTree
  here : Place
deriving Repr

namespace Disk

def empty : Disk := ⟨.empty, []⟩

def start (disk : Disk) (path : Path) : Place := if path.rooted then [] else disk.here

/-- Why a text is the path of no file, if its characters keep it from being one. -/
def nameFault? (text : Text) : Option Failure :=
  match Text.fileName text with
  | .error failure => some failure
  | .ok _ => if text.contains '\x00' then some (.shape .nullInPath) else none

def checkName (path : Path) : Except Failure Unit :=
  match nameFault? path.text with
  | some failure => .error failure
  | none => .ok ()

def place (disk : Disk) (path : Path) : Except FileProblem Place :=
  disk.tree.follow FileTree.linkLimit (disk.start path) path.parts

def node? (disk : Disk) (path : Path) : Option Node :=
  match nameFault? path.text, disk.place path with
  | none, .ok place => disk.tree.node? place
  | _, _ => none

def isFile (disk : Disk) (path : Path) : Bool :=
  match disk.node? path with
  | some (.file _) => true
  | _ => false

def isDirectory (disk : Disk) (path : Path) : Bool :=
  disk.node? path == some .directory

/-- How many links are replaced inside one another before an address counts as circular. -/
def replacementLimit : Nat := 1000

def canonicalPlace (disk : Disk) (path : Path) : Place :=
  match disk.tree.canonical replacementLimit [] (disk.start path) path.parts with
  | .ok place | .error place => place

def directoryOf (disk : Disk) (root : Root) (walked : List Text) : Path :=
  let path : Path := ⟨root, walked⟩
  if path.rooted then Path.absolute (disk.canonicalPlace path) else path

/-- Refuses a path with a component that no file can have; the first such component counts. -/
def checkParts (disk : Disk) (root : Root) (walked : List Text) : List Text → Except Failure Unit
  | [] => .ok ()
  | part :: later => do
    checkName ((disk.directoryOf root walked).join (.relative [part]))
    disk.checkParts root (walked ++ [part]) later

/-- The canonical form of a path: counted from the root, without links and without `..`. -/
def resolve (disk : Disk) (path : Path) : Except Failure Path := do
  if (nameFault? path.text).isSome then disk.checkParts path.root [] path.parts
  let place := disk.canonicalPlace path
  match disk.tree.follow FileTree.linkLimit [] place with
  | .error .linkLoop => .error (.circularLink (Path.absolute place).text)
  | _ => .ok (Path.absolute place)

def withLineFeeds : Text → Text
  | '\r' :: '\n' :: rest => '\n' :: withLineFeeds rest
  | '\r' :: rest => '\n' :: withLineFeeds rest
  | c :: rest => c :: withLineFeeds rest
  | [] => []

def read (disk : Disk) (path : Path) : Except Failure (List UInt8) := do
  checkName path
  match disk.place path with
  | .error problem => .error (.file problem path.text)
  | .ok place =>
    match disk.tree.node? place with
    | some (.file content) => .ok content
    | some .directory => .error (.file .isDirectory path.text)
    | _ => .error (.file .missing path.text)

def readText (disk : Disk) (path : Path) : Except Failure Text := do
  match Utf8.decode (← disk.read path) with
  | .ok text => .ok (withLineFeeds text)
  | .error fault => .error (.undecodable (.ofUtf8 fault))

def names (disk : Disk) (path : Path) : List Text :=
  match disk.place path with
  | .ok place => disk.tree.names place
  | .error _ => []

def directoriesBelow (disk : Disk) (depth : Nat) (path : Path) : List Path :=
  match depth with
  | 0 => [path]
  | depth + 1 =>
    path :: (disk.names path).flatMap fun name =>
      let inner := path.join (.relative [name])
      match disk.place path with
      | .ok place =>
        if disk.tree.node? (place ++ [name]) == some .directory then
          disk.directoriesBelow depth inner
        else []
      | .error _ => []

def search (disk : Disk) (path : Path) : List Pattern.Component → List Path
  | [] => [path]
  | .precisely name :: later =>
    let inner := path.join (.relative [name])
    if later.isEmpty then (if (disk.node? inner).isSome then [inner] else [])
    else if disk.isDirectory inner then disk.search inner later else []
  | .matching pattern :: later =>
    ((disk.names path).filter (Pattern.describes pattern)).flatMap fun name =>
      let inner := path.join (.relative [name])
      if later.isEmpty || disk.isDirectory inner then disk.search inner later else []
  | .anyDepth :: later =>
    (disk.directoriesBelow disk.tree.nodes.length path).flatMap fun inner =>
      disk.search inner later

def glob (disk : Disk) (directory : Path) (pattern : Text) : Except Failure (List Path) := do
  let components ← Pattern.componentsOf pattern
  .ok (if disk.isDirectory directory then disk.search directory components else [])

def makeDirectories (disk : Disk) (shown : Text) (made : Path) : List Text → Except Failure Disk
  | [] => .ok disk
  | part :: later =>
    let made := made.join (.relative [part])
    match disk.node? made, disk.place made with
    | some .directory, _ => disk.makeDirectories shown made later
    | some _, _ => .error (.file (if later.isEmpty then .alreadyThere else .notDirectory) shown)
    | none, _ =>
      match disk.place made.parent with
      | .ok place =>
        makeDirectories { disk with tree := disk.tree.put (place ++ [part]) .directory } shown made
          later
      | .error problem => .error (.file problem shown)

def makeDirectory (disk : Disk) (path : Path) : Except Failure Disk :=
  disk.makeDirectories path.text { path with parts := [] } path.parts

def write (disk : Disk) (path : Path) (content : List UInt8) : Except Failure Disk := do
  let disk ← disk.makeDirectory path.parent
  match disk.place path with
  | .ok place =>
    if disk.tree.node? place == some .directory then .error (.file .isDirectory path.text)
    else .ok { disk with tree := disk.tree.put place (.file content) }
  | .error .missing =>
    match disk.place path.parent with
    | .ok place => .ok { disk with tree := disk.tree.put (place ++ [path.name]) (.file content) }
    | .error problem => .error (.file problem path.text)
  | .error problem => .error (.file problem path.text)

def writeLink (disk : Disk) (path target : Path) : Except Failure Disk := do
  let disk ← disk.makeDirectory path.parent
  match disk.place path.parent with
  | .ok place => .ok { disk with tree := disk.tree.put (place ++ [path.name]) (.link target) }
  | .error problem => .error (.file problem path.text)

def remove (disk : Disk) (path : Path) : Except Failure Disk :=
  match disk.place path.parent with
  | .error problem => .error (.file problem path.text)
  | .ok above =>
    let place := above ++ [path.name]
    match disk.tree.node? place with
    | none => .error (.file .missing path.text)
    | some _ => .ok { disk with tree := disk.tree.without place }

def enter (disk : Disk) (path : Path) : Except Failure Disk :=
  match disk.place path with
  | .error problem => .error (.file problem path.text)
  | .ok place =>
    if disk.tree.node? place == some .directory then .ok { disk with here := place }
    else .error (.file .notDirectory path.text)

end Disk

end ControllerClient
