import StepGraph.Executor.Order
import StepGraph.Json.Parser
import StepGraph.Json.Printer
import StepGraph.Process.Run
import StepGraph.Prompt

/-! The executor that asks a model through the command line of an agent. The
agent reads the prompt, and answers in a file, under a schema. Schema, answer
and log lie in a scratch directory of the executor's own. An answer that is there
before the agent starts is taken away, so that what is read afterwards is its
own. -/
namespace StepGraph

/-- What an agent answers. -/
structure AgentAnswer where
  outcome : String
  summary : String
  deriving DecidableEq

namespace AgentAnswer

/-- Reads an answer. -/
def ofData? (data : Data) : Option AgentAnswer := do
  match ← data.fields? ["outcome", "summary"] with
  | [outcome, summary] =>
    some ⟨← outcome.required Data.text?, ← summary.required Data.text?⟩
  | _ => none

/-- Reads an answer from the text of its file. -/
def ofText? (text : String) : Option AgentAnswer := (Json.parse? text).bind ofData?

/-- The schema of answers with one of these outcomes. -/
def schema (outcomes : List String) : Data :=
  .record [
    ("additionalProperties", .bool false),
    ("properties", .record [
      ("outcome", .record [
        ("enum", .list (outcomes.map .text)),
        ("type", .text "string")]),
      ("summary", .record [("type", .text "string")])]),
    ("required", .list [.text "outcome", .text "summary"]),
    ("type", .text "object")]

end AgentAnswer

/-- An agent and its settings. -/
structure AgentExecutor where
  /-- The name of the executor, and of its scratch directory. -/
  name : String
  program : String
  /-- Arguments that stand before those that every agent is given. -/
  arguments : List String
  /-- The outcomes that the agent is told to choose from. -/
  outcomes : List String
  /-- In milliseconds. -/
  timeout : Nat
  promptBudget : Nat
  outputLimit : Nat
  /-- The directory in the sandbox that holds the scratch directories. -/
  scratch : String
  profile : Profile

namespace AgentExecutor

/-- The settings that hold where nothing else is said. -/
def ofName (name : String) : AgentExecutor where
  name := name
  program := "codex"
  arguments := []
  outcomes := ["SUCCESS", "FAILURE"]
  timeout := 1800000
  promptBudget := 40000
  outputLimit := 100000
  scratch := ".graph-runner"
  profile := .none

/-! ## Scratch files -/

/-- The scratch directory. -/
def directory (agent : AgentExecutor) (order : WorkOrder) : String :=
  Path.join (Path.join order.sandbox agent.scratch) agent.name

/-- What the names of the files of one attempt begin with. -/
def attempt (order : WorkOrder) : String :=
  let step := (order.metadata? "step_id").getD "unknown"
  let iteration := (order.metadata? "iteration").getD "0"
  s!"{step}.{iteration}"

def schemaPath (agent : AgentExecutor) (order : WorkOrder) : String :=
  Path.join (agent.directory order) "output.schema.json"

def answerPath (agent : AgentExecutor) (order : WorkOrder) : String :=
  Path.join (agent.directory order) (attempt order ++ ".output.json")

def logPath (agent : AgentExecutor) (order : WorkOrder) : String :=
  Path.join (agent.directory order) (attempt order ++ ".log")

/-! ## One attempt -/

/-- The command line of the agent. -/
def argv (agent : AgentExecutor) (order : WorkOrder) : List String :=
  [agent.program, "exec"] ++ agent.arguments ++
    ["--skip-git-repo-check", "--output-schema", agent.schemaPath order,
      "--output-last-message", agent.answerPath order, "-"]

/-- The agent as a program to run. -/
def request (agent : AgentExecutor) (order : WorkOrder) : ProcessRequest where
  argv := agent.argv order
  workdir := order.sandbox
  stdin := some (Prompt.build agent.promptBudget order.context agent.outcomes).toUTF8.toList
  timeout := agent.timeout
  outputLimit := agent.outputLimit

/-- Makes the scratch directory, puts the schema there, and takes away an answer
that is there. -/
def prepare (agent : AgentExecutor) (order : WorkOrder) : Workspace.Task Unit := do
  let directory := agent.directory order
  let schema := Json.pretty (AgentAnswer.schema agent.outcomes) ++ "\n"
  .change (.createScratch directory) (Disk.sound.makeDirectories directory)
  .change (.write (agent.schemaPath order))
    (Disk.sound.write (agent.schemaPath order) schema.toUTF8)
  let path := agent.answerPath order
  if ← .ask (·.exists? path) then
    .change (.removeStaleOutput path) (Disk.allOrNothing (·.removeFile path))

/-- Why an agent that ended like this has failed, if it has. -/
def endingFault? (agent : AgentExecutor) (order : WorkOrder) (output : ProcessOutput) :
    Option Fault :=
  if output.timedOut then some (.agentTimedOut agent.program agent.timeout)
  else if output.succeeded then none
  else some (.agentFailed agent.program output.code? (agent.logPath order))

/-- Reads the answer from its file. What the parser says of a text that it refuses is
left out. -/
def readAnswer (path : String) (files : FileSystem) : Except Failure AgentAnswer := do
  if files.exists? path then
    let text ← attemptingIo (.readAgentOutput path) (files.readText path)
    match AgentAnswer.ofText? text with
    | some answer => .ok answer
    | none => .error ⟨.parse path, [.json]⟩
  else .error (.single (.missingAgentOutput path))

/-- Runs a work order. -/
def handle (agent : AgentExecutor) (launch : Launcher) (order : WorkOrder) :
    Workspace.Task ExecutorResult := do
  agent.prepare order
  let output ← ((agent.request order).run launch).during (.run agent.program)
  let logPath := agent.logPath order
  .change (.writeAgentLog logPath) (Disk.sound.write logPath output.log.toUTF8)
  match agent.endingFault? order output with
  | some fault => .fail (.single fault)
  | none =>
    let answer ← .look (readAnswer (agent.answerPath order))
    let entry : Entry := ⟨order.entryId "message", Kind.message, answer.summary⟩
    return ⟨order.historyWith entry, answer.outcome⟩

end AgentExecutor
end StepGraph
