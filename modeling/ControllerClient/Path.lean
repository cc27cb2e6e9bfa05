import ControllerClient.Text

/-!
Paths as lists of components. A path is counted from the root or from the
working directory; components are neither empty nor a single dot, while `..`
stays as it is until a path is made normal.
-/

namespace ControllerClient

/-- What a path is counted from. Two slashes in front, and no third, stay two in its text. -/
inductive Root where
  | here | top | doubleTop
deriving DecidableEq, Repr

def Root.ofText : Text → Root
  | '/' :: '/' :: '/' :: _ => top
  | '/' :: '/' :: _ => doubleTop
  | '/' :: _ => top
  | _ => here

structure Path where
  root : Root
  parts : List Text
deriving DecidableEq, Repr

namespace Path

def absolute (parts : List Text) : Path := ⟨.top, parts⟩

def relative (parts : List Text) : Path := ⟨.here, parts⟩

def rooted (path : Path) : Bool :=
  match path.root with
  | .here => false
  | .top | .doubleTop => true

def isComponent (piece : Text) : Bool := piece != [] && piece != ['.']

def ofText (text : Text) : Path :=
  ⟨Root.ofText text, (Text.pieces '/' text).filter isComponent⟩

def text (path : Path) : Text :=
  match path.root with
  | .here => if path.parts.isEmpty then ['.'] else Text.joined ['/'] path.parts
  | .top => '/' :: Text.joined ['/'] path.parts
  | .doubleTop => '/' :: '/' :: Text.joined ['/'] path.parts

def parent (path : Path) : Path := { path with parts := path.parts.dropLast }

def name (path : Path) : Text := path.parts.getLastD []

/-- The last component without its extension; a dot at the beginning or at the end begins none. -/
def stem (path : Path) : Text :=
  match Text.cutLast? '.' path.name with
  | some (before, after) => if before.isEmpty || after.isEmpty then path.name else before
  | none => path.name

def join (path other : Path) : Path :=
  if other.rooted then other else { path with parts := path.parts ++ other.parts }

def joinText (path : Path) (text : Text) : Path := path.join (ofText text)

def ancestors (path : Path) : List Path :=
  (List.range (path.parts.length + 1)).map fun n =>
    { path with parts := path.parts.take (path.parts.length - n) }

/--
One component further from a list of components in reverse; `..` takes one back, and the
root has no parent.
-/
def stepNormal (walked : List Text) (component : Text) : List Text :=
  if component = "..".toList then walked.tail else component :: walked

/-- Components counted from the root without any `..`. -/
def normalParts (parts : List Text) : List Text :=
  (parts.foldl stepNormal []).reverse

def commonLength : List Text → List Text → Nat
  | a :: as, b :: bs => if a = b then commonLength as bs + 1 else 0
  | _, _ => 0

/-- The components that lead from one directory to another, both counted from the root. -/
def relativeParts (start target : List Text) : List Text :=
  let start := normalParts start
  let target := normalParts target
  let common := commonLength start target
  List.replicate (start.length - common) "..".toList ++ target.drop common

end Path

end ControllerClient
