import StepGraph.Manifest

/-! Which transition follows an outcome: the first that names it, or else the
first fallback. The fallback's own name is never an outcome. -/
namespace StepGraph

/-- The outcome under which a step declares what follows all others. -/
def fallbackOutcome : String := "FALLBACK"

/-- The transition that follows an outcome of a step. -/
def Step.transitionFor (step : Step) (id : StepId) (outcome : String) :
    Except RunError Transition :=
  if outcome = fallbackOutcome then .error (.reservedOutcome id outcome)
  else
    match step.transitions.find? (·.onOutcome = outcome) with
    | some transition => .ok transition
    | none =>
      match step.transitions.find? (·.onOutcome = fallbackOutcome) with
      | some transition => .ok transition
      | none => .error (.noTransition id outcome)

end StepGraph
