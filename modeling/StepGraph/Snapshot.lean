import StepGraph.RunState

/-! Snapshots: what an observer is shown of a run. A snapshot holds the shape of
the graph, how often each declared step has run and which one is next, and the
end of the log; the whole log stays with the state. -/
namespace StepGraph

/-- What a run is doing when a snapshot is taken. -/
inductive RunStatus
  | running
  | paused
  | completed
  deriving DecidableEq

/-- Where a step stands in a run. -/
inductive StepStatus
  /-- Has not run yet. -/
  | pending
  /-- Is the next to run. -/
  | active
  /-- Has run and is not the next. -/
  | completed
  deriving DecidableEq

/-- What the graph shows of a step. -/
structure StepShape where
  id : StepId
  executor : String
  transitions : List Transition
  deriving DecidableEq

/-- What the graph shows of a group. -/
structure GroupShape where
  name : String
  entryStep : String
  inherits : Bool
  steps : List StepShape
  deriving DecidableEq

/-- The shape of a manifest. -/
structure GraphShape where
  groups : List GroupShape
  deriving DecidableEq

/-- A step's standing in a run. -/
structure StepState where
  id : StepId
  status : StepStatus
  runs : Nat
  deriving DecidableEq

/-- What an observer is shown of a run. -/
structure Snapshot where
  runId : String
  status : RunStatus
  iterations : Nat
  current : Option StepId
  stack : CallStack
  graph : GraphShape
  steps : List StepState
  lastTransition : Option TransitionRecord
  /-- The length of the whole log. -/
  logLength : Nat
  /-- The end of the log, the oldest entry first. -/
  log : List LogEntry
  deriving DecidableEq

/-! ## Taking a snapshot -/

/-- The shape of a step of a group. -/
def Step.shape (step : Step) (id : StepId) : StepShape := ⟨id, step.executor, step.transitions⟩

/-- The shape of a group. -/
def Group.shape (group : Group) (name : String) : GroupShape where
  name := name
  entryStep := group.entryStep
  inherits := group.inherits
  steps := group.steps.entries.map fun entry => entry.2.shape ⟨name, entry.1⟩

/-- The shape of a manifest. -/
def Manifest.shape (manifest : Manifest) : GraphShape :=
  ⟨manifest.groups.entries.map fun entry => entry.2.shape entry.1⟩

/-- The ids of all steps shown. -/
def GraphShape.stepIds (graph : GraphShape) : List StepId :=
  graph.groups.flatMap fun group => group.steps.map StepShape.id

/-- A step's standing in a run. -/
def RunState.stepState (state : RunState) (id : StepId) : StepState :=
  let runs := state.completed.count id
  let status :=
    if state.current = some id then .active
    else if 0 < runs then .completed
    else .pending
  ⟨id, status, runs⟩

/-- The number of log entries that a snapshot shows. -/
def Snapshot.logTail : Nat := 20

/-- The snapshot of a run. -/
def RunState.snapshot (state : RunState) (graph : GraphShape) (status : RunStatus) :
    Snapshot where
  runId := state.runId
  status := status
  iterations := state.iterations
  current := state.current
  stack := state.stack
  graph := graph
  steps := graph.stepIds.map state.stepState
  lastTransition := state.lastTransition
  logLength := state.log.length
  log := state.log.drop (state.log.length - Snapshot.logTail)

/-- The standing of a step that a snapshot shows. -/
def Snapshot.step? (snapshot : Snapshot) (id : StepId) : Option StepState :=
  snapshot.steps.find? (·.id = id)

/-! ## As data -/

namespace RunStatus

def name : RunStatus → String
  | .running => "running"
  | .paused => "paused"
  | .completed => "completed"

/-- Reads a status. -/
def ofData? (data : Data) : Option RunStatus :=
  data.choice? [("running", running), ("paused", paused), ("completed", completed)]

end RunStatus

namespace StepStatus

def name : StepStatus → String
  | .pending => "pending"
  | .active => "active"
  | .completed => "completed"

/-- Reads a status. -/
def ofData? (data : Data) : Option StepStatus :=
  data.choice? [("pending", pending), ("active", active), ("completed", completed)]

end StepStatus

namespace StepShape

/-- Reads the shape of a step. -/
def ofData? (data : Data) : Option StepShape := do
  match ← data.fields? ["id", "executor", "transitions"] with
  | [id, executor, transitions] =>
    some ⟨← id.required StepId.ofData?, ← executor.required Data.text?,
      ← transitions.required (Data.list? Transition.ofData?)⟩
  | _ => none

/-- The shape of a step as data. -/
def toData (shape : StepShape) : Data :=
  .record [("id", shape.id.toData), ("executor", .text shape.executor),
    ("transitions", .list (shape.transitions.map Transition.toData))]

end StepShape

namespace GroupShape

/-- Reads the shape of a group. -/
def ofData? (data : Data) : Option GroupShape := do
  match ← data.fields? ["name", "entry_step", "inherits_context", "steps"] with
  | [name, entryStep, inherits, steps] =>
    some ⟨← name.required Data.text?, ← entryStep.required Data.text?,
      ← inherits.required Data.bool?, ← steps.required (Data.list? StepShape.ofData?)⟩
  | _ => none

/-- The shape of a group as data. -/
def toData (shape : GroupShape) : Data :=
  .record [("name", .text shape.name), ("entry_step", .text shape.entryStep),
    ("inherits_context", .bool shape.inherits),
    ("steps", .list (shape.steps.map StepShape.toData))]

end GroupShape

namespace GraphShape

/-- Reads the shape of a manifest. -/
def ofData? (data : Data) : Option GraphShape := do
  match ← data.fields? ["groups"] with
  | [groups] => some ⟨← groups.required (Data.list? GroupShape.ofData?)⟩
  | _ => none

/-- The shape of a manifest as data. -/
def toData (shape : GraphShape) : Data :=
  .record [("groups", .list (shape.groups.map GroupShape.toData))]

end GraphShape

namespace StepState

/-- Reads a step's standing. -/
def ofData? (data : Data) : Option StepState := do
  match ← data.fields? ["id", "status", "runs"] with
  | [id, status, runs] =>
    some ⟨← id.required StepId.ofData?, ← status.required StepStatus.ofData?,
      ← runs.required Data.counter?⟩
  | _ => none

/-- A step's standing as data. -/
def toData (state : StepState) : Data :=
  .record [("id", state.id.toData), ("status", .text state.status.name),
    ("runs", .natural state.runs)]

end StepState

namespace Snapshot

/-- Reads a snapshot. -/
def ofData? (data : Data) : Option Snapshot := do
  match ← data.fields? ["run_id", "status", "iterations", "current", "call_stack", "graph",
      "steps", "last_transition", "log_len", "log"] with
  | [runId, status, iterations, current, stack, graph, steps, lastTransition, logLength, log] =>
    some {
      runId := ← runId.required Data.text?
      status := ← status.required RunStatus.ofData?
      iterations := ← iterations.required Data.counter?
      current := ← current.nullable StepId.ofData?
      stack := ← stack.required (Data.list? Frame.ofData?)
      graph := ← graph.required GraphShape.ofData?
      steps := ← steps.required (Data.list? StepState.ofData?)
      lastTransition := ← lastTransition.nullable TransitionRecord.ofData?
      logLength := ← logLength.withDefault 0 Data.counter?
      log := ← log.required (Data.list? LogEntry.ofData?)
    }
  | _ => none

/-- A snapshot as data. -/
def toData (snapshot : Snapshot) : Data :=
  .record [
    ("run_id", .text snapshot.runId),
    ("status", .text snapshot.status.name),
    ("iterations", .natural snapshot.iterations),
    ("current", StepId.optionToData snapshot.current),
    ("call_stack", .list (snapshot.stack.map Frame.toData)),
    ("graph", snapshot.graph.toData),
    ("steps", .list (snapshot.steps.map StepState.toData)),
    ("last_transition", (snapshot.lastTransition.map TransitionRecord.toData).getD .null),
    ("log_len", .natural snapshot.logLength),
    ("log", .list (snapshot.log.map LogEntry.toData))]

end Snapshot
end StepGraph
