import StepGraph.Process.Capture
import StepGraph.Text.Decimal
import StepGraph.Workspace

/-! Running a program for an executor. What programs do is up to a `Launcher`, which
is given and of which nothing is assumed; here their output is captured, and what they
came to is put into a log. -/
namespace StepGraph

/-- A program to run. -/
structure ProcessRequest where
  /-- The program, and its arguments. -/
  argv : List String
  workdir : String
  /-- What the program is given to read, if anything. -/
  stdin : Option (List UInt8)
  /-- How long it may take, in milliseconds. -/
  timeout : Nat
  /-- How much of each output stream is kept. -/
  outputLimit : Nat

/-- How a program ended. -/
inductive Ending
  | exited (code : Nat)
  /-- A signal ended it. -/
  | signaled
  /-- It took too long and was stopped. -/
  | timedOut
  deriving DecidableEq

/-- What became of a program that was started. -/
structure Child where
  /-- The chunks it printed, on each stream. -/
  stdout : List (List UInt8)
  stderr : List (List UInt8)
  ending : Ending
  /-- Whether it asked the run to pause. -/
  interrupts : Bool

/-- Starts a program with its arguments, unless it cannot be started, and says
what became of it and of the files. -/
def Launcher :=
  (program : String) → (arguments : List String) → ProcessRequest → FileSystem →
    Except IoError Child × FileSystem

/-- What a program came to. -/
structure ProcessOutput where
  ending : Ending
  stdout : Captured
  stderr : Captured
  deriving DecidableEq

namespace ProcessOutput

/-- The exit code, if the program ended by itself. -/
def code? (output : ProcessOutput) : Option Nat :=
  match output.ending with
  | .exited code => some code
  | _ => none

/-- Whether the program took too long. -/
def timedOut (output : ProcessOutput) : Bool := output.ending = .timedOut

/-- Whether the program ended well. -/
def succeeded (output : ProcessOutput) : Bool := output.ending = .exited 0

/-- A stream in the log. -/
def streamLog (name : String) (captured : Captured) : String :=
  Text.Utf8.lossy captured.kept ++
    if 0 < captured.dropped then
      s!"\n[{name} truncated {Text.Decimal.text captured.dropped} bytes]\n"
    else ""

/-- Both streams as one text. -/
def log (output : ProcessOutput) : String :=
  "=== stdout ===\n" ++ streamLog "stdout" output.stdout ++
  "\n=== stderr ===\n" ++ streamLog "stderr" output.stderr ++
  if output.timedOut then "\n[timed out]\n" else ""

end ProcessOutput

/-- The output of a program that was started. -/
def Child.output (child : Child) (limit : Nat) : ProcessOutput where
  ending := child.ending
  stdout := Captured.ofChunks limit child.stdout
  stderr := Captured.ofChunks limit child.stderr

/-- Runs a program to its end. -/
def ProcessRequest.run (request : ProcessRequest) (launch : Launcher) :
    Workspace.Task ProcessOutput := fun workspace =>
  match request.argv with
  | [] => (.error (.single .noProgram), workspace)
  | program :: arguments =>
    match launch program arguments request workspace.files with
    | (.error error, files) => (.error (.refused (.spawn program) error), { workspace with files })
    | (.ok child, files) =>
      let workspace := { workspace with files }
      (.ok (child.output request.outputLimit),
        if child.interrupts then workspace.requestPause else workspace)

end StepGraph
