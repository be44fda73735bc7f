import StepGraph.CallStack

/-! The state of a run: where it stands, what history it carries, which calls are
open, and what it has done. The manifest is no part of it. -/
namespace StepGraph

/-- The transition at the end of an iteration. -/
structure TransitionRecord where
  source : StepId
  /-- The outcome that the executor reported. -/
  outcome : String
  /-- The outcome under which the transition is declared. -/
  matched : String
  action : String
  /-- The step that is next, unless the run ended. -/
  target : Option StepId
  deriving DecidableEq

/-- What one iteration took in and gave out. -/
structure LogEntry where
  iteration : Nat
  step : StepId
  executor : String
  input : Payload
  output : Payload
  outcome : String
  action : String
  deriving DecidableEq

/-- The state of a run. -/
structure RunState where
  runId : String
  /-- The step that is next; a run without one has ended. -/
  current : Option StepId
  payload : Payload
  stack : CallStack
  /-- The steps run so far, in order. -/
  completed : List StepId
  lastTransition : Option TransitionRecord
  iterations : Nat
  log : List LogEntry
  deriving DecidableEq

namespace RunState

/-- The state before anything has run. -/
def blank : RunState := ⟨"", none, [], [], [], none, 0, []⟩

/-- The state of a run that is about to begin at a step. -/
def startingAt (runId : String) (entry : StepId) : RunState :=
  { blank with runId, current := some entry }

/-- Whether the run has ended. -/
def isFinished (state : RunState) : Bool := state.current.isNone

end RunState

/-! ## As data -/

/-- An id, or null. -/
def StepId.optionToData (id : Option StepId) : Data := (id.map StepId.toData).getD .null

namespace TransitionRecord

/-- Reads a transition record. -/
def ofData? (data : Data) : Option TransitionRecord := do
  match ← data.fields? ["from", "outcome", "matched", "action", "to"] with
  | [source, outcome, matched, action, target] =>
    some {
      source := ← source.required StepId.ofData?
      outcome := ← outcome.required Data.text?
      matched := ← matched.required Data.text?
      action := ← action.required Data.text?
      target := ← target.nullable StepId.ofData?
    }
  | _ => none

/-- A transition record as data. -/
def toData (record : TransitionRecord) : Data :=
  .record [
    ("from", record.source.toData),
    ("outcome", .text record.outcome),
    ("matched", .text record.matched),
    ("action", .text record.action),
    ("to", StepId.optionToData record.target)]

end TransitionRecord

namespace LogEntry

/-- Reads an entry of the log. -/
def ofData? (data : Data) : Option LogEntry := do
  match ← data.fields?
      ["iteration", "step", "executor", "input", "output", "outcome", "action"] with
  | [iteration, step, executor, input, output, outcome, action] =>
    some {
      iteration := ← iteration.required Data.counter?
      step := ← step.required StepId.ofData?
      executor := ← executor.required Data.text?
      input := ← input.required Payload.ofData?
      output := ← output.required Payload.ofData?
      outcome := ← outcome.required Data.text?
      action := ← action.required Data.text?
    }
  | _ => none

/-- An entry of the log as data. -/
def toData (entry : LogEntry) : Data :=
  .record [
    ("iteration", .natural entry.iteration),
    ("step", entry.step.toData),
    ("executor", .text entry.executor),
    ("input", entry.input.toData),
    ("output", entry.output.toData),
    ("outcome", .text entry.outcome),
    ("action", .text entry.action)]

end LogEntry

namespace RunState

/-- Reads a state. -/
def ofData? (data : Data) : Option RunState := do
  match ← data.fields? ["run_id", "current", "payload", "call_stack", "completed",
      "last_transition", "iterations", "log"] with
  | [runId, current, payload, stack, completed, lastTransition, iterations, log] =>
    some {
      runId := ← runId.required Data.text?
      current := ← current.nullable StepId.ofData?
      payload := ← payload.required Payload.ofData?
      stack := ← stack.required (Data.list? Frame.ofData?)
      completed := ← completed.required (Data.list? StepId.ofData?)
      lastTransition := ← lastTransition.nullable TransitionRecord.ofData?
      iterations := ← iterations.required Data.counter?
      log := ← log.withDefault [] (Data.list? LogEntry.ofData?)
    }
  | _ => none

/-- A state as data. -/
def toData (state : RunState) : Data :=
  .record [
    ("run_id", .text state.runId),
    ("current", StepId.optionToData state.current),
    ("payload", state.payload.toData),
    ("call_stack", .list (state.stack.map Frame.toData)),
    ("completed", .list (state.completed.map StepId.toData)),
    ("last_transition", (state.lastTransition.map TransitionRecord.toData).getD .null),
    ("iterations", .natural state.iterations),
    ("log", .list (state.log.map LogEntry.toData))]

end RunState
end StepGraph
