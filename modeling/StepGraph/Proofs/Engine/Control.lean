import StepGraph.Proofs.Engine.Iteration
import StepGraph.Proofs.Manifest.Outline

/-! Where a run stands, and how it moves. `Manifest.move` takes the part of the state that says
where the run stands, the limit, the requests to pause and the outcome of the executor, and
says what a turn comes to. It looks at nothing but the outline of the manifest. Histories,
contexts, profiles and files have no part in it. -/
namespace StepGraph

/-- Where a run stands, and what it has done to get there. -/
structure Control where
  current : Option StepId
  stack : CallStack
  completed : List StepId
  iterations : Nat
  lastTransition : Option TransitionRecord
  deriving DecidableEq

/-- The part of the state that says where the run stands. -/
def RunState.control (state : RunState) : Control :=
  ⟨state.current, state.stack, state.completed, state.iterations, state.lastTransition⟩

/-- Where an outcome of a step leads. -/
def Control.follow (control : Control) (manifest : Manifest) (id : StepId)
    (transitions : List Transition) (outcome : String) : Except RunError Control := do
  let transition ← (Step.routing transitions).transitionFor id outcome
  let (_, place) ← Action.interpret manifest id control.stack transition.action
  return {
    current := place.next
    stack := place.stack
    completed := control.completed ++ [id]
    iterations := control.iterations + 1
    lastTransition := some ⟨id, outcome, transition.onOutcome, transition.action, place.next⟩ }

/-- Following an outcome moves control without regard to anything else. -/
theorem RunState.control_advance (state : RunState) (manifest : Manifest) (dispatch : Dispatch)
    (outcome : String) : (state.advance manifest dispatch outcome).map RunState.control =
      state.control.follow manifest dispatch.id dispatch.step.transitions outcome := by
  have routed : (Step.routing dispatch.step.transitions).transitionFor dispatch.id outcome =
      dispatch.step.transitionFor dispatch.id outcome := rfl
  unfold RunState.advance Control.follow
  rw [routed]
  cases dispatch.step.transitionFor dispatch.id outcome with
  | error error => rfl
  | ok transition =>
    simp only [bind, Except.bind, RunState.control]
    cases Action.interpret manifest dispatch.id state.stack transition.action with
    | error error => rfl
    | ok followed => rfl

/-- What an executor has to do with where a run goes: the outcome of its answer, and whether a
pause has been requested when it answers. -/
structure Cue where
  outcome : String
  pause : Bool
  deriving DecidableEq

/-- What a turn comes to. -/
structure Move where
  /-- The result with which the loop stops, unless it goes on. -/
  result? : Option (Except RunError Completion)
  control : Control
  /-- Whether an order has been handed out. -/
  asked : Bool
  /-- Whether a pause is requested afterwards. -/
  pause : Bool

/-- What a turn comes to from where the run stands, under a limit, with or without a pause
requested before, and on this cue. -/
def Manifest.move (manifest : Manifest) (limit : Option Nat) (control : Control) (pause : Bool)
    (cue : Cue) : Move :=
  match control.current with
  | none => ⟨some (.ok (.completed control.iterations)), control, false, pause⟩
  | some id =>
    if pause then ⟨some (.ok (.paused id)), control, false, pause⟩
    else
      match limit.filter (· ≤ control.iterations) with
      | some limit => ⟨some (.error (.stepLimitExceeded limit)), control, false, pause⟩
      | none =>
        match manifest.step id with
        | .error error => ⟨some (.error error), control, false, pause⟩
        | .ok step =>
          match control.follow manifest id step.transitions cue.outcome with
          | .error error => ⟨some (.error error), control, true, cue.pause⟩
          | .ok after => ⟨none, after, true, cue.pause⟩

namespace Manifest

variable {manifest : Manifest} {limit : Option Nat} {control : Control} {cue : Cue} {id : StepId}

theorem move_of_ended {pause : Bool} (ended : control.current = none) :
    manifest.move limit control pause cue =
      ⟨some (.ok (.completed control.iterations)), control, false, pause⟩ := by
  simp only [move, ended]

theorem move_of_paused (waiting : control.current = some id) :
    manifest.move limit control true cue = ⟨some (.ok (.paused id)), control, false, true⟩ := by
  simp only [move, waiting, ↓reduceIte]

theorem move_of_limited {reached : Nat} (waiting : control.current = some id)
    (limited : limit.filter (· ≤ control.iterations) = some reached) :
    manifest.move limit control false cue =
      ⟨some (.error (.stepLimitExceeded reached)), control, false, false⟩ := by
  simp only [move, waiting, limited, Bool.false_eq_true, ↓reduceIte]

theorem move_of_missing {error : RunError} (waiting : control.current = some id)
    (below : limit.filter (· ≤ control.iterations) = none)
    (missing : manifest.step id = .error error) :
    manifest.move limit control false cue = ⟨some (.error error), control, false, false⟩ := by
  simp only [move, waiting, below, missing, Bool.false_eq_true, ↓reduceIte]

theorem move_of_unrouted {step : Step} {error : RunError} (waiting : control.current = some id)
    (below : limit.filter (· ≤ control.iterations) = none) (found : manifest.step id = .ok step)
    (failed : control.follow manifest id step.transitions cue.outcome = .error error) :
    manifest.move limit control false cue = ⟨some (.error error), control, true, cue.pause⟩ := by
  simp only [move, waiting, below, found, failed, Bool.false_eq_true, ↓reduceIte]

theorem move_of_followed {step : Step} {after : Control} (waiting : control.current = some id)
    (below : limit.filter (· ≤ control.iterations) = none) (found : manifest.step id = .ok step)
    (followed : control.follow manifest id step.transitions cue.outcome = .ok after) :
    manifest.move limit control false cue = ⟨none, after, true, cue.pause⟩ := by
  simp only [move, waiting, below, found, followed, Bool.false_eq_true, ↓reduceIte]

/-- Manifests with one outline move alike. -/
theorem move_congr {first second : Manifest} (alike : first.outline = second.outline) :
    first.move = second.move := by
  funext limit control pause cue
  have follows (id : StepId) (transitions : List Transition) :
      control.follow first id transitions cue.outcome =
        control.follow second id transitions cue.outcome := by
    simp only [Control.follow, interpret_congr alike]
  unfold move
  cases control.current with
  | none => rfl
  | some id =>
    rcases step_alike alike id with ⟨error, missing, again⟩ | ⟨step, other, found, again, same⟩
    · simp only [missing, again]
    · simp only [found, again, follows, same]

end Manifest

end StepGraph
