import StepGraph.Context
import StepGraph.Text.Blank
import StepGraph.Transition

/-! The configuration of a run: its limits, where it leaves its files, and the
executors by name. What is not said takes a default; `Config.fault?` says what is
wrong with a configuration, the first fault in the order of the fields. -/
namespace StepGraph

/-- The settings of a program that runs steps. -/
structure CommandSettings where
  command : List String
  timeoutSeconds : UInt64
  outputLimit : UInt64
  passContext : Bool
  success : String
  failure : String
  timeout : String
  persona : Option String
  settings : OrderedMap String
  deriving DecidableEq

/-- The settings of an agent that runs steps. -/
structure AgentSettings where
  program : String
  arguments : List String
  outcomes : List String
  timeoutSeconds : UInt64
  promptBudget : UInt64
  outputLimit : UInt64
  persona : Option String
  settings : OrderedMap String
  deriving DecidableEq

/-- The settings of an executor. -/
inductive ExecutorSettings
  | command (settings : CommandSettings)
  | agent (settings : AgentSettings)
  deriving DecidableEq

/-- The configuration of a run. -/
structure Config where
  maxSteps : Option UInt64
  snapshotPath : String
  runStatePath : String
  executors : SortedMap ExecutorSettings
  deriving DecidableEq

/-- What holds where nothing is said. -/
def CommandSettings.default : CommandSettings where
  command := []
  timeoutSeconds := 600
  outputLimit := 100000
  passContext := false
  success := "SUCCESS"
  failure := "FAILURE"
  timeout := "TIMEOUT"
  persona := none
  settings := ∅

/-- What holds where nothing is said. -/
def AgentSettings.default : AgentSettings where
  program := "codex"
  arguments := []
  outcomes := ["SUCCESS", "FAILURE"]
  timeoutSeconds := 1800
  promptBudget := 40000
  outputLimit := 100000
  persona := none
  settings := ∅

/-- What holds where nothing is said. -/
def Config.default : Config where
  maxSteps := none
  snapshotPath := ".graph-runner/snapshot.json"
  runStatePath := ".graph-runner/run_state.json"
  executors := ∅

/-! ## Validity -/

/-- The first fault that applies. -/
def firstFault (faults : List (Bool × Fault)) : Option Fault :=
  (faults.find? (·.1)).map Prod.snd

/-- What is wrong with a name for an outcome. -/
def outcomeFault? (outcome : String) : Option Fault :=
  firstFault [
    (Text.isBlankText outcome, .blankOutcome),
    (outcome = fallbackOutcome, .reservedOutcome)]

namespace CommandSettings

/-- The outcomes that the program can have. -/
def outcomes (settings : CommandSettings) : List String :=
  [settings.success, settings.failure, settings.timeout]

/-- What is wrong with the settings. -/
def fault? (settings : CommandSettings) : Option Fault :=
  (firstFault [
    ((settings.command.head?.map Text.isBlankText).getD true, .emptyCommandLine),
    (settings.timeoutSeconds = 0, .zeroTimeout),
    (settings.outputLimit = 0, .zeroOutputLimit)]).or
  (settings.outcomes.findSome? outcomeFault?)

end CommandSettings

namespace AgentSettings

/-- What is wrong with the settings. -/
def fault? (settings : AgentSettings) : Option Fault :=
  (firstFault [
    (Text.isBlankText settings.program, .emptyProgram),
    (settings.outcomes.isEmpty, .noOutcomes),
    (settings.timeoutSeconds = 0, .zeroTimeout),
    (settings.promptBudget = 0, .zeroPromptBudget),
    (settings.outputLimit = 0, .zeroOutputLimit)]).or
  (settings.outcomes.findSome? outcomeFault?)

end AgentSettings

/-- What is wrong with the settings. -/
def ExecutorSettings.fault? : ExecutorSettings → Option Fault
  | .command settings => settings.fault?
  | .agent settings => settings.fault?

namespace Config

/-- What is wrong with a configuration. -/
def fault? (config : Config) : Option Failure :=
  ((firstFault [
    (config.maxSteps = some 0, .zeroStepLimit),
    (config.snapshotPath.isEmpty, .emptySnapshotPath),
    (config.runStatePath.isEmpty, .emptyRunStatePath)]).map Failure.single).or
  (config.executors.entries.findSome? fun entry =>
    entry.2.fault?.map fun fault => (Failure.single fault).during (.inExecutor entry.1))

/-- A configuration, if nothing is wrong with it. -/
def validated (config : Config) : Except Failure Config :=
  match config.fault? with
  | none => .ok config
  | some failure => .error failure

end Config

/-! ## As data -/

/-- A limit as data. -/
def Data.ofLimit (limit : UInt64) : Data := .natural limit.toNat

namespace CommandSettings

/-- Reads settings. -/
def ofData? (data : Data) : Option CommandSettings := do
  match ← data.fields? ["command", "timeout_secs", "output_limit_bytes", "pass_context",
      "success", "failure", "timeout", "persona", "settings"] with
  | [command, timeoutSeconds, outputLimit, passContext, success, failure, timeout, persona,
      settings] =>
    some {
      command := ← command.withDefault default.command (Data.list? Data.text?)
      timeoutSeconds := ← timeoutSeconds.withDefault default.timeoutSeconds Data.limit?
      outputLimit := ← outputLimit.withDefault default.outputLimit Data.limit?
      passContext := ← passContext.withDefault default.passContext Data.bool?
      success := ← success.withDefault default.success Data.text?
      failure := ← failure.withDefault default.failure Data.text?
      timeout := ← timeout.withDefault default.timeout Data.text?
      persona := ← persona.withDefault default.persona (Data.nullable? Data.text?)
      settings := ← settings.withDefault default.settings (Data.orderedMap? Data.text?)
    }
  | _ => none

/-- The fields of the settings as data. -/
def toFields (settings : CommandSettings) : List (String × Option Data) :=
  [("command", some (.list (settings.command.map .text))),
    ("timeout_secs", some (.ofLimit settings.timeoutSeconds)),
    ("output_limit_bytes", some (.ofLimit settings.outputLimit)),
    ("pass_context", some (.bool settings.passContext)),
    ("success", some (.text settings.success)),
    ("failure", some (.text settings.failure)),
    ("timeout", some (.text settings.timeout)),
    ("persona", settings.persona.map .text),
    ("settings", some settings.settings.toData)]

end CommandSettings

namespace AgentSettings

/-- Reads settings. -/
def ofData? (data : Data) : Option AgentSettings := do
  match ← data.fields? ["program", "args", "outcomes", "timeout_secs", "prompt_budget_bytes",
      "output_limit_bytes", "persona", "settings"] with
  | [program, arguments, outcomes, timeoutSeconds, promptBudget, outputLimit, persona, settings] =>
    some {
      program := ← program.withDefault default.program Data.text?
      arguments := ← arguments.withDefault default.arguments (Data.list? Data.text?)
      outcomes := ← outcomes.withDefault default.outcomes (Data.list? Data.text?)
      timeoutSeconds := ← timeoutSeconds.withDefault default.timeoutSeconds Data.limit?
      promptBudget := ← promptBudget.withDefault default.promptBudget Data.limit?
      outputLimit := ← outputLimit.withDefault default.outputLimit Data.limit?
      persona := ← persona.withDefault default.persona (Data.nullable? Data.text?)
      settings := ← settings.withDefault default.settings (Data.orderedMap? Data.text?)
    }
  | _ => none

/-- The fields of the settings as data. -/
def toFields (settings : AgentSettings) : List (String × Option Data) :=
  [("program", some (.text settings.program)),
    ("args", some (.list (settings.arguments.map .text))),
    ("outcomes", some (.list (settings.outcomes.map .text))),
    ("timeout_secs", some (.ofLimit settings.timeoutSeconds)),
    ("prompt_budget_bytes", some (.ofLimit settings.promptBudget)),
    ("output_limit_bytes", some (.ofLimit settings.outputLimit)),
    ("persona", settings.persona.map .text),
    ("settings", some settings.settings.toData)]

end AgentSettings

namespace ExecutorSettings

/-- Reads the settings of an executor: its kind, beside the settings of that
kind. -/
def ofData? (data : Data) : Option ExecutorSettings := do
  let (kind, body) ← data.tagged? "kind"
  match kind with
  | "command" => (CommandSettings.ofData? body).map command
  | "agent" => (AgentSettings.ofData? body).map agent
  | _ => none

/-- The settings of an executor as data. -/
def toData : ExecutorSettings → Data
  | .command settings => .present (("kind", some (.text "command")) :: settings.toFields)
  | .agent settings => .present (("kind", some (.text "agent")) :: settings.toFields)

end ExecutorSettings

namespace Config

/-- Reads a configuration. -/
def ofData? (data : Data) : Option Config := do
  match ← data.fields? ["max_steps", "snapshot_path", "run_state_path", "executors"] with
  | [maxSteps, snapshotPath, runStatePath, executors] =>
    some {
      maxSteps := ← maxSteps.withDefault default.maxSteps (Data.nullable? Data.limit?)
      snapshotPath := ← snapshotPath.withDefault default.snapshotPath Data.text?
      runStatePath := ← runStatePath.withDefault default.runStatePath Data.text?
      executors :=
        ← executors.withDefault default.executors (Data.sortedMap? ExecutorSettings.ofData?)
    }
  | _ => none

/-- The fields of a configuration as data. -/
def toFields (config : Config) : List (String × Data) :=
  (config.maxSteps.map fun limit => ("max_steps", Data.ofLimit limit)).toList ++
  [("snapshot_path", .text config.snapshotPath),
    ("run_state_path", .text config.runStatePath),
    ("executors",
      .record (config.executors.entries.map fun entry => (entry.1, entry.2.toData)))]

/-- A configuration as data. -/
def toData (config : Config) : Data := .record config.toFields

end Config
end StepGraph
