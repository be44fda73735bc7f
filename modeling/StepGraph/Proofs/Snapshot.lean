import StepGraph.Engine.Run
import StepGraph.Proofs.Manifest.Codec
import StepGraph.Proofs.RunState.Codec

/-! A published snapshot reads back. Like a state, it is held by its text when the ids in it read
back and its counters are words; besides those of the state, it names the ids of all declared
steps, in the shape of the graph and in the standing of each step. -/
namespace StepGraph

private theorem StepShape.ofData?_toData {shape : StepShape} (back : shape.id.readsBack = true) :
    StepShape.ofData? shape.toData = some shape := by
  have id := StepId.ofData?_toData back
  have transitions := Data.list?_map fun transition (_ : transition ∈ shape.transitions) =>
    Transition.ofData?_toData transition
  have fields : shape.toData.fields? ["id", "executor", "transitions"] =
      some [.given shape.id.toData, .given (.text shape.executor),
        .given (.list (shape.transitions.map Transition.toData))] := rfl
  simp [StepShape.ofData?, fields, Data.Field.required, Data.text?, id, transitions]

private theorem GroupShape.ofData?_toData {shape : GroupShape}
    (back : ∀ step ∈ shape.steps, step.id.readsBack = true) :
    GroupShape.ofData? shape.toData = some shape := by
  have steps := Data.list?_map fun step member => StepShape.ofData?_toData (back step member)
  have fields : shape.toData.fields? ["name", "entry_step", "inherits_context", "steps"] =
      some [.given (.text shape.name), .given (.text shape.entryStep),
        .given (.bool shape.inherits), .given (.list (shape.steps.map StepShape.toData))] := rfl
  simp [GroupShape.ofData?, fields, Data.Field.required, Data.text?, Data.bool?, steps]

private theorem GraphShape.ofData?_toData {graph : GraphShape}
    (back : ∀ id ∈ graph.stepIds, id.readsBack = true) :
    GraphShape.ofData? graph.toData = some graph := by
  have groups := Data.list?_map fun group (member : group ∈ graph.groups) =>
    GroupShape.ofData?_toData fun step among =>
      back step.id (List.mem_flatMap_of_mem member (List.mem_map_of_mem among))
  have fields : graph.toData.fields? ["groups"] =
      some [.given (.list (graph.groups.map GroupShape.toData))] := rfl
  simp [GraphShape.ofData?, fields, Data.Field.required, groups]

private theorem GraphShape.fits_toData (graph : GraphShape) {depth : Nat}
    (shallow : depth + 7 < Json.nestingLimit) : Json.Fits depth graph.toData := by
  have transition (shape : Transition) : Json.Fits (depth + 6) shape.toData :=
    ⟨by omega, trivial, trivial, trivial⟩
  have step (shape : StepShape) : Json.Fits (depth + 4) shape.toData :=
    ⟨by omega, trivial, trivial, ⟨by omega, Json.fitAll_map fun shape _ => transition shape⟩,
      trivial⟩
  have group (shape : GroupShape) : Json.Fits (depth + 2) shape.toData :=
    ⟨by omega, trivial, trivial, trivial, ⟨by omega, Json.fitAll_map fun shape _ => step shape⟩,
      trivial⟩
  exact ⟨by omega, ⟨by omega, Json.fitAll_map fun shape _ => group shape⟩, trivial⟩

private theorem RunStatus.ofData?_name (status : RunStatus) :
    RunStatus.ofData? (.text status.name) = some status := by
  cases status <;> rfl

private theorem StepStatus.ofData?_name (status : StepStatus) :
    StepStatus.ofData? (.text status.name) = some status := by
  cases status <;> rfl

/-- The standing of a step whose id reads back, and which has run so often that a word counts it. -/
structure StepState.Held (state : StepState) : Prop where
  id : state.id.readsBack = true
  runs : state.runs < Data.wordBound

private theorem StepState.ofData?_toData {state : StepState} (held : state.Held) :
    StepState.ofData? state.toData = some state := by
  have id := StepId.ofData?_toData held.id
  have status := state.status.ofData?_name
  have runs := Data.counter?_natural held.runs
  have fields : state.toData.fields? ["id", "status", "runs"] =
      some [.given state.id.toData, .given (.text state.status.name),
        .given (.natural state.runs)] := rfl
  simp [StepState.ofData?, fields, Data.Field.required, id, status, runs]

namespace Snapshot

variable {snapshot : Snapshot}

/-- A snapshot that a text can hold. -/
structure Held (snapshot : Snapshot) : Prop where
  place : Continuation.Everywhere (·.readsBack = true) ⟨snapshot.current, snapshot.stack⟩
  graph : ∀ id ∈ snapshot.graph.stepIds, id.readsBack = true
  steps : ∀ step ∈ snapshot.steps, step.Held
  lastTransition : ∀ record, snapshot.lastTransition = some record → record.ReadsBack
  iterations : snapshot.iterations < Data.wordBound
  logLength : snapshot.logLength < Data.wordBound
  log : ∀ entry ∈ snapshot.log, entry.Held

private theorem ofData?_toData (held : snapshot.Held) :
    ofData? snapshot.toData = some snapshot := by
  have status := snapshot.status.ofData?_name
  have iterations := Data.counter?_natural held.iterations
  have current := StepId.nullable_optionToData held.place.next
  have stack := Frame.list?_map fun frame member => held.place.frame member
  have graph := GraphShape.ofData?_toData held.graph
  have steps := Data.list?_map fun step member => StepState.ofData?_toData (held.steps step member)
  have last := TransitionRecord.nullable_toData held.lastTransition
  have logLength := Data.counter?_natural held.logLength
  have log := LogEntry.list?_map held.log
  have fields : snapshot.toData.fields? ["run_id", "status", "iterations", "current", "call_stack",
      "graph", "steps", "last_transition", "log_len", "log"] =
      some [.given (.text snapshot.runId), .given (.text snapshot.status.name),
        .given (.natural snapshot.iterations), .given (StepId.optionToData snapshot.current),
        .given (.list (snapshot.stack.map Frame.toData)), .given snapshot.graph.toData,
        .given (.list (snapshot.steps.map StepState.toData)),
        .given ((snapshot.lastTransition.map TransitionRecord.toData).getD .null),
        .given (.natural snapshot.logLength), .given (.list (snapshot.log.map LogEntry.toData))] :=
    rfl
  simp only at current stack
  simp [ofData?, fields, Data.Field.required, Data.Field.nullable, Data.Field.withDefault,
    Data.text?, status, iterations, current, stack, graph, steps, last, logLength, log]

private theorem Held.fits (held : snapshot.Held) : Json.Fits 1 snapshot.toData :=
  ⟨by decide, trivial, trivial, held.iterations, Json.fits_optionToData _,
    Json.fits_stack _ (by decide), snapshot.graph.fits_toData (by decide),
    ⟨by decide, Json.fitAll_map fun step member =>
      ⟨by decide, trivial, trivial, (held.steps step member).runs, trivial⟩⟩,
    Json.fits_record _ (by decide), held.logLength, Json.fits_log held.log (by decide), trivial⟩

/-- Reads a snapshot from the text of its file. -/
def ofFileText? (text : String) : Option Snapshot := (Json.parse? text).bind ofData?

/-- A snapshot that can be held reads back from the text of its file. -/
theorem ofFileText?_fileText (held : snapshot.Held) :
    ofFileText? snapshot.fileText = some snapshot := by
  rw [ofFileText?, fileText, Json.parse?_pretty held.fits, Option.bind_some, ofData?_toData held]

end Snapshot

/-- A state that can be held is shown by snapshots that can be held, if the ids of the graph read
back and a word counts what is in its lists. -/
theorem RunState.Held.snapshot_of_lengths {state : RunState} (held : state.Held) {graph : GraphShape}
    (back : ∀ id ∈ graph.stepIds, id.readsBack = true)
    (completed : state.completed.length < Data.wordBound)
    (logged : state.log.length < Data.wordBound) (status : RunStatus) :
    (state.snapshot graph status).Held where
  place := held.place
  graph := back
  steps step member := by
    obtain ⟨id, among, rfl⟩ := List.mem_map.mp member
    exact ⟨back id among, Nat.lt_of_le_of_lt List.count_le_length completed⟩
  lastTransition := held.lastTransition
  iterations := held.iterations
  logLength := logged
  log entry member := held.log entry (List.mem_of_mem_drop member)

/-- The lists of a state may also be no longer than its counter says. -/
theorem RunState.Held.snapshot {state : RunState} (held : state.Held) {graph : GraphShape}
    (back : ∀ id ∈ graph.stepIds, id.readsBack = true)
    (completed : state.completed.length ≤ state.iterations)
    (logged : state.log.length ≤ state.iterations) (status : RunStatus) :
    (state.snapshot graph status).Held :=
  held.snapshot_of_lengths back (Nat.lt_of_le_of_lt completed held.iterations)
    (Nat.lt_of_le_of_lt logged held.iterations) status

end StepGraph
