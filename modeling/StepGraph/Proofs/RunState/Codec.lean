import StepGraph.Proofs.Data
import StepGraph.Proofs.Engine.Iteration
import StepGraph.Proofs.Json.RoundTrip
import StepGraph.RunState.Store

/-! A stored state reads back. Ids are stored as their texts and counters as words,
so that a state is held by its file when its ids read back and its counters are
words. Everything else in it is free: names, payloads and texts lose nothing. -/
namespace StepGraph

private theorem Entry.ofData?_toData (entry : Entry) :
    Entry.ofData? entry.toData = some entry := rfl

private theorem Payload.ofData?_toData (payload : Payload) :
    Payload.ofData? payload.toData = some payload :=
  Data.list?_map fun entry _ => Entry.ofData?_toData entry

theorem StepId.nullable_optionToData {id : Option StepId}
    (back : ∀ found, id = some found → found.readsBack = true) :
    (StepId.optionToData id).nullable? StepId.ofData? = some id := by
  cases id with
  | none => rfl
  | some id =>
    have read := StepId.ofData?_toData (back id rfl)
    exact congrArg (Option.map some) read

/-- The ids that a frame names read back. -/
structure Frame.ReadsBack (frame : Frame) : Prop where
  caller : frame.caller.readsBack = true
  resume : ∀ id, frame.resume = some id → id.readsBack = true

private theorem Frame.ofData?_toData {frame : Frame} (back : frame.ReadsBack) :
    Frame.ofData? frame.toData = some frame := by
  have caller := StepId.ofData?_toData back.caller
  have resume := StepId.nullable_optionToData back.resume
  have fields : frame.toData.fields? ["caller", "resume"] =
      some [.given frame.caller.toData, .given (StepId.optionToData frame.resume)] := rfl
  simp [Frame.ofData?, fields, Data.Field.required, Data.Field.nullable, caller, resume]

theorem Frame.list?_map {stack : CallStack} (back : ∀ frame ∈ stack, frame.ReadsBack) :
    Data.list? Frame.ofData? (.list (stack.map Frame.toData)) = some stack :=
  Data.list?_map fun frame member => Frame.ofData?_toData (back frame member)

/-- The ids that a transition record names read back. -/
structure TransitionRecord.ReadsBack (record : TransitionRecord) : Prop where
  source : record.source.readsBack = true
  target : ∀ id, record.target = some id → id.readsBack = true

private theorem TransitionRecord.ofData?_toData {record : TransitionRecord}
    (back : record.ReadsBack) :
    TransitionRecord.ofData? record.toData = some record := by
  have source := StepId.ofData?_toData back.source
  have target := StepId.nullable_optionToData back.target
  have fields : record.toData.fields? ["from", "outcome", "matched", "action", "to"] =
      some [.given record.source.toData, .given (.text record.outcome),
        .given (.text record.matched), .given (.text record.action),
        .given (StepId.optionToData record.target)] := rfl
  simp [TransitionRecord.ofData?, fields, Data.Field.required, Data.Field.nullable, Data.text?,
    source, target]

theorem TransitionRecord.nullable_toData {record : Option TransitionRecord}
    (back : ∀ found, record = some found → found.ReadsBack) :
    ((record.map TransitionRecord.toData).getD .null).nullable? TransitionRecord.ofData? =
      some record := by
  cases record with
  | none => rfl
  | some found =>
    have read := TransitionRecord.ofData?_toData (back found rfl)
    exact congrArg (Option.map some) read

/-- An entry of the log whose step reads back and whose number is a word. -/
structure LogEntry.Held (entry : LogEntry) : Prop where
  step : entry.step.readsBack = true
  iteration : entry.iteration < Data.wordBound

private theorem LogEntry.ofData?_toData {entry : LogEntry} (held : entry.Held) :
    LogEntry.ofData? entry.toData = some entry := by
  have step := StepId.ofData?_toData held.step
  have iteration := Data.counter?_natural held.iteration
  have fields : entry.toData.fields?
      ["iteration", "step", "executor", "input", "output", "outcome", "action"] =
      some [.given (.natural entry.iteration), .given entry.step.toData,
        .given (.text entry.executor), .given entry.input.toData, .given entry.output.toData,
        .given (.text entry.outcome), .given (.text entry.action)] := rfl
  simp [LogEntry.ofData?, fields, Data.Field.required, Data.text?, step, iteration,
    Payload.ofData?_toData]

theorem LogEntry.list?_map {log : List LogEntry} (held : ∀ entry ∈ log, entry.Held) :
    Data.list? LogEntry.ofData? (.list (log.map LogEntry.toData)) = some log :=
  Data.list?_map fun entry member => LogEntry.ofData?_toData (held entry member)

theorem Continuation.Everywhere.frame {place : Continuation}
    (everywhere : place.Everywhere (·.readsBack = true)) {frame : Frame}
    (member : frame ∈ place.stack) : frame.ReadsBack :=
  ⟨everywhere.callers frame member, everywhere.resumes frame member⟩

/-! The data of states and of snapshots nest only a few levels deep. -/
namespace Json

variable {depth : Nat}

private theorem fits_payload (payload : Payload) (shallow : depth + 2 < nestingLimit) :
    Fits depth payload.toData := by
  refine ⟨by omega, fitAll_map fun entry _ => ?_⟩
  exact ⟨by omega, trivial, trivial, trivial, trivial⟩

theorem fits_optionToData (id : Option StepId) : Fits depth (StepId.optionToData id) := by
  cases id <;> trivial

theorem fits_stack (stack : CallStack) (shallow : depth + 2 < nestingLimit) :
    Fits depth (.list (stack.map Frame.toData)) := by
  refine ⟨by omega, fitAll_map fun frame _ => ?_⟩
  exact ⟨by omega, trivial, fits_optionToData _, trivial⟩

theorem fits_record (record : Option TransitionRecord) (shallow : depth + 1 < nestingLimit) :
    Fits depth ((record.map TransitionRecord.toData).getD .null) := by
  cases record with
  | none => trivial
  | some record =>
    exact ⟨by omega, trivial, trivial, trivial, trivial, fits_optionToData _, trivial⟩

theorem fits_log {log : List LogEntry} (held : ∀ entry ∈ log, entry.Held)
    (shallow : depth + 4 < nestingLimit) : Fits depth (.list (log.map LogEntry.toData)) := by
  refine ⟨by omega, fitAll_map fun entry member => ?_⟩
  exact ⟨by omega, (held entry member).iteration, trivial, trivial, fits_payload _ (by omega),
    fits_payload _ (by omega), trivial, trivial, trivial⟩

end Json

namespace RunState

/-- A state that its file can hold. -/
structure Held (state : RunState) : Prop where
  place : state.place.Everywhere (·.readsBack = true)
  completed : ∀ id ∈ state.completed, id.readsBack = true
  lastTransition : ∀ record, state.lastTransition = some record → record.ReadsBack
  iterations : state.iterations < Data.wordBound
  log : ∀ entry ∈ state.log, entry.Held

/-- A state that can be held is what its data describes. -/
theorem ofData?_toData {state : RunState} (held : state.Held) :
    ofData? state.toData = some state := by
  have current := StepId.nullable_optionToData held.place.next
  have stack := Frame.list?_map fun frame member => held.place.frame member
  have completed : Data.list? StepId.ofData? (.list (state.completed.map StepId.toData)) =
      some state.completed :=
    Data.list?_map fun id member => StepId.ofData?_toData (held.completed id member)
  have last := TransitionRecord.nullable_toData held.lastTransition
  have iterations := Data.counter?_natural held.iterations
  have log := LogEntry.list?_map held.log
  have fields : state.toData.fields? ["run_id", "current", "payload", "call_stack", "completed",
      "last_transition", "iterations", "log"] =
      some [.given (.text state.runId), .given (StepId.optionToData state.current),
        .given state.payload.toData, .given (.list (state.stack.map Frame.toData)),
        .given (.list (state.completed.map StepId.toData)),
        .given ((state.lastTransition.map TransitionRecord.toData).getD .null),
        .given (.natural state.iterations), .given (.list (state.log.map LogEntry.toData))] := rfl
  simp only [RunState.place] at current stack
  simp [ofData?, fields, Data.Field.required, Data.Field.nullable, Data.Field.withDefault,
    Data.text?, current, Payload.ofData?_toData, stack, completed, last, iterations, log]

theorem Held.fits {state : RunState} (held : state.Held) : Json.Fits 1 state.toData :=
  ⟨by decide, trivial, Json.fits_optionToData _, Json.fits_payload _ (by decide),
    Json.fits_stack _ (by decide), ⟨by decide, Json.fitAll_map fun _ _ => trivial⟩,
    Json.fits_record _ (by decide), held.iterations, Json.fits_log held.log (by decide), trivial⟩

/-- A state that can be held reads back from the text of its file. -/
theorem ofFileText?_fileText {state : RunState} (held : state.Held) :
    ofFileText? state.fileText = some state := by
  rw [ofFileText?, fileText, Json.parse?_pretty held.fits, Option.bind_some, ofData?_toData held]

end RunState
end StepGraph
