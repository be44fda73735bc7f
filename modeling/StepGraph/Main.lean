import StepGraph.CommandLine.Run
import StepGraph.Shell.Launch

/-! The program. It reads the files that its arguments name and all that is in the
sandbox, does what it is asked to do on this copy, and then puts what has changed
back. Programs that steps start run on the copy too: here `CommandLine.perform`, for
which a launcher is given, gets the one of the shell. -/
namespace StepGraph.Program

/-- Directories nest no deeper than this. -/
def deepest : Nat := 64

/-- More iterations than a run takes. -/
def patience : Nat := 1000000000

/-- The names of an absolute path. -/
def locationOf (path : String) : Location :=
  (Path.segments path.toList).filter (· ≠ []) |>.map String.ofList

/-- Puts a node at a location, and the directories above it. -/
def place (files : FileSystem) (location : Location) (node : FileNode) : FileSystem :=
  let above := (List.range location.length).map location.take
  let files := above.foldl (fun files directory =>
    if directory = [] then files else files.put directory .directory) files
  if location = [] then files else files.put location node

/-- The mode of a file, which may be run if it begins as a script does. -/
def modeOf (content : ByteArray) : FileMode :=
  if content[0]? = some 35 && content[1]? = some 33 then .program else .plain

/-- The access rights of a mode. -/
def accessRights (mode : FileMode) : IO.FileRight :=
  let rights (shift : Nat) : IO.AccessRight :=
    let bits := mode.bits >>> shift
    { read := bits &&& 4 ≠ 0, write := bits &&& 2 ≠ 0, execution := bits &&& 1 ≠ 0 }
  { user := rights 6, group := rights 3, other := rights 0 }

/-- Reads what a path leads to, and what is below it. What cannot be read is left
out. -/
def load : (depth : Nat) → (path : String) → FileSystem → IO FileSystem
  | 0, _, files => return files
  | depth + 1, path, files => do
    try
      let resolved ← IO.FS.realPath path
      let location := locationOf resolved.toString
      if ← resolved.isDir then
        let mut files := place files location .directory
        for entry in ← resolved.readDir do
          files ← load depth entry.path.toString files
        return files
      else
        let content ← IO.FS.readBinFile resolved
        return place files location (.file content (modeOf content))
    catch _ => return files

/-- The paths that the arguments name. -/
def pathsOf : CommandLine.Request → List String
  | .invocation (.graph manifest) => [manifest]
  | .invocation (.run target _) | .invocation (.resume target) =>
    target.manifest :: target.sandbox :: target.config.toList
  | _ => []

/-- Puts a node that is new or has changed back. -/
def keep (before : FileSystem) (entry : Location × FileNode) : IO Unit := do
  let path := FileSystem.absoluteText entry.1
  if before.get? entry.1 ≠ some entry.2 then
    match entry.2 with
    | .directory => IO.FS.createDirAll path
    | .file content mode =>
      IO.FS.writeBinFile path content
      IO.setAccessRights path (accessRights mode)

/-- Takes a node away that is there no more. -/
def drop (after : FileSystem) (entry : Location × FileNode) : IO Unit := do
  let path := FileSystem.absoluteText entry.1
  if (after.get? entry.1).isNone then
    match entry.2 with
    | .directory => IO.FS.removeDir path
    | .file .. => IO.FS.removeFile path

/-- Runs the program. -/
def run (arguments : List String) : IO UInt32 := do
  let cwd := locationOf (← IO.currentDir).toString
  let start := place (Shell.Program.install (FileSystem.fresh cwd)) cwd .directory
  let before ← (pathsOf (CommandLine.read arguments)).foldlM
    (fun files path => load deepest path files) start
  let now ← IO.monoNanosNow
  match CommandLine.perform Shell.launch patience now arguments before with
  | none => return 1
  | some (report, after) =>
    after.nodes.forM (keep before)
    before.nodes.reverse.forM (drop after)
    IO.print report.stdout
    IO.eprint report.stderr
    return report.exit.toUInt32

end StepGraph.Program

/-- Runs the program on its arguments. -/
def main (arguments : List String) : IO UInt32 := StepGraph.Program.run arguments
