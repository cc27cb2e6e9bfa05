import ControllerClient.Failure
import ControllerClient.Path

/-!
A tree of files: directories, files with their octets, and symbolic links. The
tree is a finite map from places, lists of components counted from the root;
the root itself is always a directory.
-/

namespace ControllerClient

/-- The components of an absolute path. -/
abbrev Place := List Text

inductive Node where
  | directory
  | file (content : List UInt8)
  | link (target : Path)
deriving DecidableEq, Repr

structure FileTree where
  nodes : List (Place × Node)
deriving Repr

namespace FileTree

def empty : FileTree := ⟨[]⟩

/-- What stands at a place, links not followed. -/
def node? (tree : FileTree) (place : Place) : Option Node :=
  if place.isEmpty then some .directory else tree.nodes.lookup place

def put (tree : FileTree) (place : Place) (node : Node) : FileTree :=
  ⟨(place, node) :: tree.nodes.filter (·.1 != place)⟩

def isAtOrBelow (place ancestor : Place) : Bool := ancestor.isPrefixOf place

def without (tree : FileTree) (place : Place) : FileTree :=
  ⟨tree.nodes.filter fun (other, _) => !isAtOrBelow other place⟩

def names (tree : FileTree) (place : Place) : List Text :=
  tree.nodes.filterMap fun (other, _) =>
    if other.length = place.length + 1 ∧ isAtOrBelow other place then other.getLast? else none

/--
The place that a path leads to when every link is followed: each component but
the last has to be a directory, and `..` is the parent of what was reached.
`links` bounds how many links are followed.
-/
def follow (tree : FileTree) (links : Nat) (reached : Place) (rest : List Text) :
    Except FileProblem Place :=
  match rest with
  | [] => .ok reached
  | component :: rest =>
    if component = "..".toList then follow tree links reached.dropLast rest
    else
      let place := reached ++ [component]
      match tree.node? place with
      | none => .error .missing
      | some .directory => follow tree links place rest
      | some (.file _) => if rest.isEmpty then .ok place else .error .notDirectory
      | some (.link target) =>
        match links with
        | 0 => .error .linkLoop
        | links + 1 =>
          follow tree links (if target.rooted then [] else reached) (target.parts ++ rest)
termination_by (links, rest.length)

/-- How many links one path may lead through. -/
def linkLimit : Nat := 40

/--
The canonical place of a path: links are replaced by what they stand for, and
what does not exist is taken as it is written. `active` are the links being
replaced; meeting one again is a loop, reported by the place where it is met.
-/
def canonical (tree : FileTree) (fuel : Nat) (active : List Place) (reached : Place)
    (rest : List Text) : Except Place Place :=
  match rest with
  | [] => .ok reached
  | component :: rest =>
    if component = "..".toList then canonical tree fuel active reached.dropLast rest
    else
      let place := reached ++ [component]
      match tree.node? place with
      | some (.link target) =>
        match fuel with
        | 0 => .error (Path.normalParts (place ++ rest))
        | fuel + 1 =>
          if active.contains place then .error (Path.normalParts (place ++ rest))
          else
            match canonical tree fuel (place :: active) (if target.rooted then [] else reached)
                target.parts with
            | .error loop => .error (Path.normalParts (loop ++ rest))
            | .ok resolved => canonical tree (fuel + 1) active resolved rest
      | _ => canonical tree fuel active place rest
termination_by (fuel, rest.length)

end FileTree

end ControllerClient
