import StepGraph.Executor.Order
import StepGraph.Workspace

/-! The service that runs steps. The engine knows nothing else of executors: it
asks for what an executor adds to the context, and hands out work orders. How a
step went is an outcome; a failure means that the service itself has failed. -/
namespace StepGraph

/-- Runs work orders, with a state of its own. -/
structure Service (σ : Type) where
  /-- What the executor of that name adds to the context of its steps. -/
  profile? : σ → String → Option Profile
  /-- Runs a work order. -/
  execute : WorkOrder → σ → Workspace → Except Failure ExecutorResult × σ × Workspace

end StepGraph
