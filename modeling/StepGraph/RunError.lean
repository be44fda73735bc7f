import StepGraph.Action
import StepGraph.Failure

/-! Errors that end a run. An outcome that a step reports is never one of them:
outcomes are routed by transitions. -/
namespace StepGraph

/-- Why a run cannot go on. -/
inductive RunError
  | invalidStepId (invalid : StepId.Invalid)
  | unknownGroup (group : String)
  | unknownStep (id : StepId)
  | invalidAction (step : StepId) (raw : String) (defect : Action.Defect)
  | noTransition (step : StepId) (outcome : String)
  | reservedOutcome (step : StepId) (outcome : String)
  | stepLimitExceeded (limit : Nat)
  | nothingToResume
  | executorFailed (step : StepId) (executor : String) (failure : Failure)
  | artifactFailed (step : StepId) (path : String) (failure : Failure)
  deriving DecidableEq

namespace RunError

/-- An error in words. -/
def message : RunError → String
  | .invalidStepId invalid => invalid.message
  | .unknownGroup group => s!"unknown group '{group}'"
  | .unknownStep id => s!"unknown step '{id.text}'"
  | .invalidAction step raw defect =>
    s!"invalid action '{raw}' in {step.text}: {defect.message}"
  | .noTransition step outcome =>
    s!"step {step.text} returned outcome '{outcome}' with no matching transition and no FALLBACK"
  | .reservedOutcome step outcome =>
    s!"executor for {step.text} emitted the reserved outcome '{outcome}'"
  | .stepLimitExceeded limit => s!"step limit of {Text.Decimal.text limit} exceeded"
  | .nothingToResume => "nothing to resume: the run has no current step"
  | .executorFailed step executor _ => s!"executor '{executor}' failed on {step.text}"
  | .artifactFailed step path _ => s!"read artifact '{path}' for {step.text}"

/-- The faults behind an error, the nearest first. -/
def causes : RunError → List Fault
  | .executorFailed _ _ failure => failure.fault :: failure.causes
  | .artifactFailed _ _ failure => failure.fault :: failure.causes
  | _ => []

/-- Whether the manifest is to blame and not what surrounds the run. -/
def isStructural : RunError → Bool
  | .invalidStepId _ => true
  | .unknownGroup _ => true
  | .unknownStep _ => true
  | .invalidAction .. => true
  | .noTransition .. => true
  | _ => false

end RunError
end StepGraph
