import StepGraph.Config
import StepGraph.Executor.Agent
import StepGraph.Executor.Command
import StepGraph.Executor.Service

/-! Executors by name. The registry is the service that runs steps for real: it
hands a work order to the executor that the step names. -/
namespace StepGraph

/-- An executor that always answers the same. -/
structure FixedExecutor where
  /-- What to fail with. -/
  failure : Option String
  outcome : String

/-- Runs a work order. -/
def FixedExecutor.handle (fixed : FixedExecutor) (order : WorkOrder) :
    Workspace.Task ExecutorResult :=
  match fixed.failure with
  | some message => .fail (.single (.stated message))
  | none =>
    .result ⟨order.historyWith ⟨order.entryId "fixed", Kind.message, "done"⟩, fixed.outcome⟩

/-- An executor. -/
inductive Executor
  | command (executor : CommandExecutor)
  | agent (executor : AgentExecutor)
  | fixed (executor : FixedExecutor)

namespace Executor

/-- What the executor adds to the context of its steps. -/
def profile : Executor → Profile
  | .command executor => executor.profile
  | .agent executor => executor.profile
  | .fixed _ => .none

/-- Runs a work order. -/
def handle (launch : Launcher) (order : WorkOrder) : Executor → Workspace.Task ExecutorResult
  | .command executor => executor.handle launch order
  | .agent executor => executor.handle launch order
  | .fixed executor => executor.handle order

/-- The executor that settings describe. -/
def ofSettings (name : String) : ExecutorSettings → Executor
  | .command settings => .command {
      argv := settings.command
      timeout := settings.timeoutSeconds.toNat * 1000
      outputLimit := settings.outputLimit.toNat
      passContext := settings.passContext
      success := settings.success
      failure := settings.failure
      late := settings.timeout
      profile := ⟨settings.persona, settings.settings⟩ }
  | .agent settings => .agent { AgentExecutor.ofName name with
      program := settings.program
      arguments := settings.arguments
      outcomes := settings.outcomes
      timeout := settings.timeoutSeconds.toNat * 1000
      promptBudget := settings.promptBudget.toNat
      outputLimit := settings.outputLimit.toNat
      profile := ⟨settings.persona, settings.settings⟩ }

end Executor

/-- Executors by name. -/
structure Registry where
  executors : SortedMap Executor

namespace Registry

/-- The registry without executors. -/
def empty : Registry := ⟨∅⟩

/-- Adds an executor under a name that is free. -/
def register (registry : Registry) (name : String) (executor : Executor) :
    Except Failure Registry :=
  if registry.executors.contains name then .error (.single (.executorTaken name))
  else .ok ⟨registry.executors.insert name executor⟩

/-- The names in order. -/
def names (registry : Registry) : List String := registry.executors.keys

/-- What the executor of a name adds to the context of its steps. -/
def profile? (registry : Registry) (name : String) : Option Profile :=
  (registry.executors.get? name).map Executor.profile

/-- Hands a work order to its executor. -/
def execute (registry : Registry) (launch : Launcher) (order : WorkOrder) :
    Workspace.Task ExecutorResult :=
  match registry.executors.get? order.executor with
  | none => .fail (.single (.executorUnknown order.executor))
  | some executor => executor.handle launch order

/-- The executors of a configuration. -/
def ofConfig (config : Config) : Except Failure Registry :=
  config.executors.entries.foldlM (fun registry entry =>
    registry.register entry.1 (.ofSettings entry.1 entry.2)) empty

/-- The registry as the service of an engine. -/
def service (launch : Launcher) : Service Registry where
  profile? := profile?
  execute order registry workspace :=
    let (outcome, workspace) := (registry.execute launch order).run workspace
    (outcome, registry, workspace)

end Registry
end StepGraph
