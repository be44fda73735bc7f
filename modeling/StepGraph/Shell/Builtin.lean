import StepGraph.Shell.Builtin.Names
import StepGraph.Shell.Builtin.Setting
import StepGraph.Shell.Builtin.Signals
import StepGraph.Shell.Builtin.Variables

/-! Commands that the shell runs itself, because they change the process: its
variables, its parameters, its directory, or what it does next. -/
namespace StepGraph.Shell.Builtin
open Run Expansion

/-- Goes to a directory, and says where that is if asked to. -/
def goTo (target : String) (aloud : Bool) : Run Nat := do
  let tree ← files
  match tree.locate (if target = "" then "." else target) with
  | .ok (location, .directory) =>
    Utility.exportVariable "OLDPWD" (FileSystem.absoluteText tree.cwd)
    Utility.exportVariable "PWD" (FileSystem.absoluteText location)
    setFiles { tree with cwd := location }
    if aloud then
      let _ ← print (FileSystem.absoluteText location ++ "\n")
    return 0
  | _ => blamed "cd" s!"can't cd to {target}"

/-- Goes to another directory. -/
def cd (arguments : List String) : Run Nat := do
  match arguments.filter fun argument => argument ≠ "-P" && argument ≠ "-L" && argument ≠ "--" with
  | [] => goTo ((← valueOf? "HOME").getD ".") false
  | "-" :: _ => goTo ((← valueOf? "OLDPWD").getD ".") true
  | path :: _ => goTo path false

/-- The commands that run in the process itself without being special; nothing if a
name is none of them. -/
def regular? (name : String) (arguments : List String) : Run (Option Nat) := do
  let process ← process
  let speaker := s!"{process.name}: {Text.Decimal.text process.line}: {name}"
  match name with
  | "true" => return some 0
  | "false" => return some 1
  | "echo" => return some (← Utility.echoUnescaped s!"{speaker}: echo" arguments)
  | "printf" => return some (← Utility.printfInShell speaker arguments)
  | "test" => return some (← Utility.test speaker arguments)
  | "[" => return some (← Utility.bracket speaker arguments)
  | "kill" => return some (← Utility.kill speaker arguments)
  | "pwd" => return some (← Utility.pwd speaker [])
  | "cd" => return some (← cd arguments)
  | "read" => return some (← read arguments)
  | "wait" => return some (← wait arguments)
  | "getopts" => return some (← getopts arguments)
  | "type" => return some (← Utility.forEach arguments explain)
  | "hash" => return some (← hash arguments)
  | "umask" => return some (← umask arguments)
  | "ulimit" => return some (← ulimit arguments)
  | "fg" | "bg" => return some (← blamed name "No current job")
  | "jobs" => listJobs; return some 0
  | "alias" => return some (← defineAliases arguments)
  | "unalias" => return some (← unalias arguments)
  | _ => return none

/-- The path of a script that is to be read: the one that a name is, or where it is
found. -/
def scriptPath? (name : String) : Run (Option String) := do
  if name.toList.contains '/' then return some name
  let tree ← files
  let isFile (path : String) : Bool := match tree.locate path with
    | .ok (_, .file ..) => true
    | _ => false
  return ((Executable.directories (← searchPath)).map (Executable.inDirectory name)).find? isFile

/-- Reads a script and runs it in this process. -/
def readScript (execute : Execute) (name : String) : Run Unit := do
  match ← scriptPath? name with
  | none => blameAndExit "." s!"{name}: not found"
  | some path =>
    match (← files).read path with
    | .error .isADirectory => setStatus 0
    | .error error =>
      let reason := if error = .notFound || error = .notADirectory then "No such file"
        else error.reason
      blameAndExit "." s!"cannot open {name}: {reason}"
    | .ok content =>
      setStatus 0
      changeProcess fun process => { process with calls := process.calls + 1 }
      let flow ← caught (runScript execute (Text.Utf8.lossy content.data.toList))
      changeProcess fun process => { process with calls := process.calls - 1 }
      match flow with
      | none | some .finish => pure ()
      | some flow => throw flow

/-- Runs a special command. `start` runs a program in place of the shell. -/
def runSpecial (execute : Execute) (start : String → List String → Run Nat) (name : String)
    (arguments : List String) : Run Unit := do
  match name with
  | "break" | "continue" =>
    setStatus 0
    let levels ← count name arguments 1
    if levels = 0 then blameAndExit name "Illegal number: 0"
    let levels := min levels (← process).loops
    if levels ≠ 0 then throw (if name = "break" then .leave levels else .again levels)
  | "exit" =>
    let status ← count name arguments (← process).status
    exitWith (status % 256)
  | "return" =>
    setStatus (← count name arguments (← process).status)
    throw .finish
  | "shift" =>
    let amount ← count name arguments 1
    let parameters := (← process).parameters
    if parameters.length < amount then blameAndExit name "can't shift that many"
    setParameters (parameters.drop amount)
    setStatus 0
  | "set" => set arguments; setStatus 0
  | "unset" => unset arguments; setStatus 0
  | "export" => declare .exported arguments; setStatus 0
  | "readonly" => declare .fixed arguments; setStatus 0
  | "local" => localize arguments; setStatus 0
  | "eval" =>
    setStatus 0
    runScript execute (" ".intercalate arguments)
  | "exec" =>
    match arguments with
    | [] => setStatus 0
    | program :: arguments => exitWith (← start program arguments)
  | "." =>
    match arguments with
    | [] => setStatus 0
    | name :: _ => readScript execute name
  | "trap" => setStatus (← trap arguments)
  | "times" =>
    let _ ← print "0m0.00s 0m0.00s\n0m0.00s 0m0.00s\n"
    setStatus 0
  | _ => setStatus 0

end StepGraph.Shell.Builtin
