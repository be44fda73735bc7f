import StepGraph.Process.Run
import StepGraph.Shell.Evaluation

/-! Starting programs. A program is looked up from the directory that it is to
work in, runs there on the files, and is stopped when its time is over.

All that is below `Shell` stands in for the programs of a system, the shell and its
utilities, which steps call but the graph of steps does not contain. With it a command
line can be run as a whole on a tree of files. Only `Main` imports it. To executors,
runs and the command line a `Launcher` is given, and what is proved of them holds for
every one; of the shell itself nothing is proved. -/
namespace StepGraph.Shell
open Run

/-- The directories in which programs are looked for. -/
def searchPath : String := "/usr/bin:/bin"

/-- The variables that a program finds. -/
def environment : List (String × Variable) := [("PATH", ⟨some searchPath, true, false⟩)]

/-- The channel that a program reads from: what it is given, or nothing. -/
def inputChannel : Option (List UInt8) → Channel
  | none => .discard
  | some bytes => .input bytes []

/-- A machine and a process on which a program can start. -/
def start (name : String) (request : ProcessRequest) (files : FileSystem) : State where
  machine := {
    files
    channels := [inputChannel request.stdin, .output [] [], .output [] []]
    clock := 0
    deadline := request.timeout * 1000
    jobs := []
    sent := []
    interrupts := false
    nextNumber := leaderNumber + 1 }
  process := {
    name
    number := leaderNumber
    around := []
    line := 0
    bindings := environment
    parameters := []
    functions := []
    descriptors := [(0, 0), (1, 1), (2, 2)]
    status := 0
    loops := 0
    leads := true
    isCopy := false
    job := none
    table := []
    latest := none
    guarded := false
    options := []
    mask := 0o022
    known := []
    aliases := []
    place := .start
    calls := 0
    traps := []
    arrived := []
    hidden := []
    hiddenOptions := none
    substituted := none }

/-- What has been printed on a channel. -/
def printed : Option Channel → List (List UInt8)
  | some (.output chunks _) => inOrder chunks
  | _ => []

/-- Whether what is printed on a channel never ends. -/
def isEndless : Option Channel → Bool
  | some (.output _ forever) => forever ≠ []
  | _ => false

/-- How a program ended whose process came to a flow. -/
def endingOf (state : State) : Option Flow → Ending
  | some (.killed ..) => .signaled
  | some .timedOut => .timedOut
  | _ =>
    if state.machine.channels.any fun channel => isEndless channel then .timedOut
    else .exited state.process.status

/-- Starts programs on the files, in the directory that the request names. -/
def launch : Launcher := fun program arguments request files =>
  if (program :: arguments).any fun text => text.toList.contains '\x00' then
    (.error .nulInArgument, files)
  else
    match files.locate request.workdir with
    | .error .invalidInput => (.error .nulInArgument, files)
    | .error error => (.error error, files)
    | .ok (_, .file ..) => (.error .notADirectory, files)
    | .ok (location, .directory) =>
      match Executable.find false { files with cwd := location } searchPath program with
      | .error error => (.error error, files)
      | .ok found =>
        let body : Run Unit := do
          checkClock
          Evaluation.enter (Evaluation.run Evaluation.depth) Evaluation.programDepth found arguments
          checkClock
        let (flow, state) :=
          caught body (start program request { files with cwd := location })
        let child : Child := {
          stdout := printed state.machine.channels[1]?
          stderr := printed state.machine.channels[2]?
          ending := endingOf state (flow.toOption.join)
          interrupts := state.machine.interrupts }
        (.ok child, { state.machine.files with cwd := files.cwd })

end StepGraph.Shell
