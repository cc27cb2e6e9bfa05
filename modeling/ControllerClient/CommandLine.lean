import ControllerClient.Controller

/-!
The command line: for every path the client of the controller file there is
printed, under a line that names the path.
-/

namespace ControllerClient.CommandLine

/-- What a run has printed, and its exit code unless it failed. -/
structure Run where
  output : Text
  diagnostics : Text
  result : Except Failure Nat

def usage : Text := "usage: python -m forget_api CONTROLLER [CONTROLLER ...]\n".toList

def headerLine (path : Text) : Text := "# ".toList ++ path ++ ['\n']

def clientAt (disk : Disk) (config : Config) (path : Text) : Except Failure Text := do
  Controller.clientCode disk config path (← disk.readText (Path.ofText path))

/-- Prints the clients of the files at some paths, up to the first failure. -/
def printAll (disk : Disk) (config : Config) : List Text → Run
  | [] => ⟨[], [], .ok 0⟩
  | path :: later =>
    match clientAt disk config path with
    | .error failure => ⟨headerLine path, [], .error failure⟩
    | .ok code =>
      let rest := printAll disk config later
      { rest with output := headerLine path ++ code ++ '\n' :: rest.output }

def run (disk : Disk) (kept : Config.Kept) (paths : List Text) : Run × Config.Kept :=
  if paths.isEmpty then (⟨[], usage, .ok 2⟩, kept)
  else match Config.load disk kept none with
    | .error failure => (⟨[], [], .error failure⟩, kept)
    | .ok (config, kept) => (printAll disk config paths, kept)

end ControllerClient.CommandLine
