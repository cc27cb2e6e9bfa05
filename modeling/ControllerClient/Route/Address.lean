import ControllerClient.Config

/-!
The route of a controller file. A file is named for its constructor followed by
the configured suffix, and its route is the way from the route root to its
directory, continued by the constructor unless the directory bears that name.
-/

namespace ControllerClient.Route

/--
The constructor that a file is named for: its stem without the first occurrence of the
suffix.
-/
def constructorName (stem : Text) (suffix : Value) : Except Failure Text :=
  if suffix.isTruthy then
    match suffix with
    | .str suffix => .ok (Text.withoutFirst suffix stem)
    | other => .error (.kind (.replaceArgument other.kindName))
  else .ok stem

/-- The directory that a controller file stands for. -/
def targetOf (file : Path) (constructor : Text) : Path :=
  if file.parent.name = constructor then file.parent else file.parent.joinText constructor

def between (root target : Path) : Text :=
  '/' :: Text.replaced '\\' '/' (Text.joined ['/'] (Path.relativeParts root.parts target.parts))

def ofFile (disk : Disk) (config : Config) (variant : Value) (file : Path) :
    Except Failure Text := do
  let root ← config.routeRoot disk variant
  let file ← disk.resolve file
  let constructor ← constructorName file.stem config.suffix
  .ok (between root (targetOf file constructor))

end ControllerClient.Route
