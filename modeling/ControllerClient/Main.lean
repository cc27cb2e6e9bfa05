import ControllerClient.CommandLine

/-!
The program: it looks at the files that a run of the command line can touch,
runs it on them and prints what it prints.
-/

namespace ControllerClient.Program

def after (disk : Disk) (change : Except Failure Disk) : Disk :=
  match change with
  | .ok later => later
  | .error _ => disk

def start : IO Disk := do
  let here := Path.ofText (toString (← IO.currentDir)).toList
  let disk := after .empty (Disk.empty.makeDirectory here)
  return after disk (disk.enter here)

def target? (path : Path) : IO (Option Path) := do
  try
    let real ← IO.FS.realPath (String.ofList path.text)
    return some (Path.ofText (toString real).toList)
  catch _ => return none

def content? (path : Path) : IO (Option (List UInt8)) := do
  try
    let content ← IO.FS.readBinFile (String.ofList path.text)
    return some content.toList
  catch _ => return none

/-- A disk that also holds what stands at a path of this machine. -/
def observe (disk : Disk) (path : Path) : IO Disk := do
  let path := (Path.absolute disk.here).join path
  match ← target? path with
  | none => return disk
  | some real =>
    let disk := after disk (match ← content? real with
      | some content => disk.write real content
      | none => disk.makeDirectory real)
    if real = path then return disk
    else return after disk (disk.writeLink path real)

def observeSetting (disk : Disk) (directory : Path) (setting : Option Value) : IO Disk :=
  match setting with
  | some (.str text) => observe disk (directory.joinText text)
  | _ => return disk

/-- A disk that also holds the settings that count in the working directory. -/
def observeSettings (disk : Disk) : IO Disk := do
  let disk ← ((Path.absolute disk.here).ancestors.map Config.fileIn).foldlM observe disk
  let .ok file := Config.find disk none | return disk
  let .ok entries := Config.readEntries disk file | return disk
  let disk ← observeSetting disk file.parent (entries.field? "root".toList)
  let .ok root := Config.findProjectRoot disk none | return disk
  let disk ← observe disk (Config.fileIn root)
  let .ok config := Config.read disk root | return disk
  observeSetting disk root (some config.srcRoot)

def run (paths : List Text) : IO CommandLine.Run := do
  let disk ← observeSettings (← start)
  let disk ← (paths.map Path.ofText).foldlM observe disk
  return (CommandLine.run disk [] paths).1

end ControllerClient.Program

def main (arguments : List String) : IO UInt32 := do
  let run ← ControllerClient.Program.run (arguments.map String.toList)
  IO.print (String.ofList run.output)
  IO.eprint (String.ofList run.diagnostics)
  match run.result with
  | .ok code => return code.toUInt32
  | .error failure =>
    IO.eprintln (String.ofList failure.text)
    return 1
