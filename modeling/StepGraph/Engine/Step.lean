import StepGraph.Action
import StepGraph.Artifact
import StepGraph.Executor.Service
import StepGraph.RunState
import StepGraph.Transition

/-! One iteration of a run. The engine reads the artifacts of the step that is
next, builds its context, hands out a work order, and follows the transition of
the outcome. The payload is replaced as soon as the executor has answered; the
position, the stack and the log change only if the transition can be followed. -/
namespace StepGraph

/-- What stays the same during a run. -/
structure Engine (σ : Type) where
  manifest : Manifest
  service : Service σ
  /-- The directory that steps work in. -/
  sandbox : String
  /-- How many iterations a run may have. -/
  maxSteps : Option Nat
  /-- Files that hold the latest snapshot. -/
  snapshotFiles : List String

/-- The next step of a run and its work order. -/
structure Dispatch where
  id : StepId
  step : Step
  order : WorkOrder
  deriving DecidableEq

/-- Reads the artifacts of a step. -/
def Step.readArtifacts (step : Step) (id : StepId) (sandbox : String) (files : FileSystem) :
    Except RunError (List Artifact) :=
  step.artifacts.mapM fun path =>
    (files.readArtifact sandbox path).mapError (RunError.artifactFailed id path)

namespace Engine

variable {σ : Type}

/-- What is to be done next. -/
def dispatch (engine : Engine σ) (state : RunState) (service : σ) (files : FileSystem) :
    Except RunError Dispatch := do
  match state.current with
  | none => .error .nothingToResume
  | some id =>
    let step ← engine.manifest.step id
    let artifacts ← step.readArtifacts id engine.sandbox files
    let context ← engine.manifest.context {
      id
      payload := state.payload
      stack := state.stack
      profile := engine.service.profile? service step.executor
      artifacts
      facts := {
        runId := state.runId
        sandbox := engine.sandbox
        iteration := state.iterations + 1 } }
    return ⟨id, step, ⟨step.executor, context, engine.sandbox⟩⟩

end Engine

/-- The state after an iteration: the transition of the outcome is followed, and
the iteration is logged. The payload has been replaced already. -/
def RunState.advance (state : RunState) (manifest : Manifest) (dispatch : Dispatch)
    (outcome : String) : Except RunError RunState := do
  let transition ← dispatch.step.transitionFor dispatch.id outcome
  let (_, continuation) ← Action.interpret manifest dispatch.id state.stack transition.action
  let iteration := state.iterations + 1
  return { state with
    current := continuation.next
    stack := continuation.stack
    completed := state.completed ++ [dispatch.id]
    iterations := iteration
    lastTransition := some {
      source := dispatch.id
      outcome
      matched := transition.onOutcome
      action := transition.action
      target := continuation.next }
    log := state.log ++ [{
      iteration
      step := dispatch.id
      executor := dispatch.step.executor
      input := dispatch.order.context
      output := state.payload
      outcome
      action := transition.action }] }

end StepGraph
