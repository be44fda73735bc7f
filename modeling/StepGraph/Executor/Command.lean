import StepGraph.Executor.Order
import StepGraph.Json.Printer
import StepGraph.Process.Run

/-! The executor that runs a program of the sandbox. How the program ends decides
the outcome, and what it printed becomes an entry of the history. -/
namespace StepGraph

/-- A program, and what its endings mean. -/
structure CommandExecutor where
  argv : List String
  /-- In milliseconds. -/
  timeout : Nat
  outputLimit : Nat
  /-- Whether the program is given the context to read. -/
  passContext : Bool
  /-- The outcomes of ending well, of ending otherwise, and of taking too long. -/
  success : String
  failure : String
  late : String
  profile : Profile

namespace CommandExecutor

/-- The settings that hold where nothing else is said. -/
def ofArgv (argv : List String) : CommandExecutor where
  argv := argv
  timeout := 600000
  outputLimit := 100000
  passContext := false
  success := "SUCCESS"
  failure := "FAILURE"
  late := "TIMEOUT"
  profile := .none

/-- The outcome that an ending means. -/
def outcomeOf (command : CommandExecutor) (output : ProcessOutput) : String :=
  if output.timedOut then command.late
  else if output.succeeded then command.success
  else command.failure

/-- What the program is given to read. -/
def input? (command : CommandExecutor) (order : WorkOrder) : Option (List UInt8) :=
  if command.passContext then
    some (Json.compact (Payload.toData order.context)).toUTF8.toList
  else none

/-- What is remembered of a run of the program. -/
def transcript (command : CommandExecutor) (output : ProcessOutput) : String :=
  "$ " ++ " ".intercalate command.argv ++ "\nexit: " ++ quoteCode output.code? ++ "\n" ++ output.log

/-- Runs a work order. -/
def handle (command : CommandExecutor) (launch : Launcher) (order : WorkOrder) :
    Workspace.Task ExecutorResult := do
  let request : ProcessRequest := {
    argv := command.argv
    workdir := order.sandbox
    stdin := command.input? order
    timeout := command.timeout
    outputLimit := command.outputLimit }
  let output ← request.run launch
  let entry : Entry := ⟨order.entryId "tool", Kind.toolOutput, command.transcript output⟩
  return ⟨order.historyWith entry, command.outcomeOf output⟩

end CommandExecutor
end StepGraph
