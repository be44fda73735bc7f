import StepGraph.Proofs.RunState.Codec

/-! What can be read can be held. A value that comes out of data has gone through the checks
of its reader: its ids have been parsed from texts, and its counters are words. So a state
that has been loaded can be stored and loaded again. -/
namespace StepGraph

variable {α : Type} {data : Data} {value? : Data → Option α}

private theorem mem_of_mapM {sources : List Data} {items : List α} {item : α}
    (mapped : sources.mapM value? = some items) (member : item ∈ items) :
    ∃ source, value? source = some item := by
  induction sources generalizing items with
  | nil =>
    cases mapped
    cases member
  | cons source rest ih =>
    rw [List.mapM_cons] at mapped
    obtain ⟨first, read, mapped⟩ := Option.bind_eq_some_iff.mp mapped
    obtain ⟨others, later, same⟩ := Option.bind_eq_some_iff.mp mapped
    cases same
    rcases List.mem_cons.mp member with rfl | behind
    · exact ⟨source, read⟩
    · exact ih later behind

private theorem Data.mem_of_list? {items : List α} {item : α}
    (read : Data.list? value? data = some items)
    (member : item ∈ items) : ∃ source, value? source = some item := by
  cases data with
  | list sources => exact mem_of_mapM read member
  | openList sources => exact mem_of_mapM read member
  | _ => cases read

private theorem Data.of_nullable? {value : α} (read : data.nullable? value? = some (some value)) :
    value? data = some value := by
  unfold Data.nullable? at read
  split at read
  · cases read
  · obtain ⟨_, found, same⟩ := Option.map_eq_some_iff.mp read
    cases same
    exact found

private theorem Data.Field.of_required {field : Data.Field} {value : α}
    (given : field.required value? = some value) : ∃ source, value? source = some value := by
  cases field with
  | given source => exact ⟨source, given⟩
  | omitted => cases given
  | beyondEnd => cases given

private theorem Data.Field.of_nullable {field : Data.Field} {value : α}
    (given : field.nullable value? = some (some value)) : ∃ source, value? source = some value := by
  cases field with
  | given source => exact ⟨source, Data.of_nullable? given⟩
  | omitted => cases given
  | beyondEnd => cases given

private theorem Data.Field.of_withDefault {field : Data.Field} {default value : α}
    (given : field.withDefault default value? = some value) :
    (∃ source, value? source = some value) ∨ value = default := by
  cases field with
  | given source => exact Or.inl ⟨source, given⟩
  | omitted => exact Or.inr (Option.some.inj given).symm
  | beyondEnd => exact Or.inr (Option.some.inj given).symm

private theorem Data.counter?_lt {n : Nat} (read : Data.counter? data = some n) :
    n < Data.wordBound := by
  cases data with
  | natural value =>
    obtain ⟨word, same⟩ := Option.ite_none_right_eq_some.mp read
    cases same
    exact word
  | _ => cases read

private theorem StepId.readsBack_of_ofData? {id : StepId} (read : StepId.ofData? data = some id) :
    id.readsBack = true := by
  obtain ⟨raw, _, parsed⟩ := Option.bind_eq_some_iff.mp read
  cases made : StepId.parse raw with
  | error invalid =>
    rw [made] at parsed
    cases parsed
  | ok found =>
    rw [made] at parsed
    cases parsed
    exact StepId.readsBack_of_parse made

private theorem StepId.readsBack_of_required {field : Data.Field} {id : StepId}
    (given : field.required StepId.ofData? = some id) : id.readsBack = true := by
  obtain ⟨_, read⟩ := Data.Field.of_required given
  exact StepId.readsBack_of_ofData? read

private theorem StepId.readsBack_of_nullable {field : Data.Field} {found : Option StepId}
    (given : field.nullable StepId.ofData? = some found) :
    ∀ id, found = some id → id.readsBack = true := by
  rintro id rfl
  obtain ⟨_, read⟩ := Data.Field.of_nullable given
  exact StepId.readsBack_of_ofData? read

private theorem Frame.readsBack_of_ofData? {frame : Frame}
    (read : Frame.ofData? data = some frame) : frame.ReadsBack := by
  obtain ⟨fields, _, read⟩ := Option.bind_eq_some_iff.mp read
  split at read
  · obtain ⟨caller, named, read⟩ := Option.bind_eq_some_iff.mp read
    obtain ⟨resume, follows, read⟩ := Option.bind_eq_some_iff.mp read
    cases read
    exact ⟨StepId.readsBack_of_required named, StepId.readsBack_of_nullable follows⟩
  · cases read

private theorem TransitionRecord.readsBack_of_ofData? {record : TransitionRecord}
    (read : TransitionRecord.ofData? data = some record) : record.ReadsBack := by
  obtain ⟨fields, _, read⟩ := Option.bind_eq_some_iff.mp read
  split at read
  · obtain ⟨source, named, read⟩ := Option.bind_eq_some_iff.mp read
    obtain ⟨outcome, _, read⟩ := Option.bind_eq_some_iff.mp read
    obtain ⟨matched, _, read⟩ := Option.bind_eq_some_iff.mp read
    obtain ⟨action, _, read⟩ := Option.bind_eq_some_iff.mp read
    obtain ⟨target, follows, read⟩ := Option.bind_eq_some_iff.mp read
    cases read
    exact ⟨StepId.readsBack_of_required named, StepId.readsBack_of_nullable follows⟩
  · cases read

private theorem LogEntry.held_of_ofData? {entry : LogEntry}
    (read : LogEntry.ofData? data = some entry) : entry.Held := by
  obtain ⟨fields, _, read⟩ := Option.bind_eq_some_iff.mp read
  split at read
  · obtain ⟨iteration, counted, read⟩ := Option.bind_eq_some_iff.mp read
    obtain ⟨step, named, read⟩ := Option.bind_eq_some_iff.mp read
    obtain ⟨executor, _, read⟩ := Option.bind_eq_some_iff.mp read
    obtain ⟨input, _, read⟩ := Option.bind_eq_some_iff.mp read
    obtain ⟨output, _, read⟩ := Option.bind_eq_some_iff.mp read
    obtain ⟨outcome, _, read⟩ := Option.bind_eq_some_iff.mp read
    obtain ⟨action, _, read⟩ := Option.bind_eq_some_iff.mp read
    cases read
    obtain ⟨_, word⟩ := Data.Field.of_required counted
    exact ⟨StepId.readsBack_of_required named, Data.counter?_lt word⟩
  · cases read

namespace RunState

private theorem held_of_ofData? {state : RunState} (read : ofData? data = some state) :
    state.Held := by
  obtain ⟨fields, _, read⟩ := Option.bind_eq_some_iff.mp read
  split at read
  · obtain ⟨runId, _, read⟩ := Option.bind_eq_some_iff.mp read
    obtain ⟨current, next, read⟩ := Option.bind_eq_some_iff.mp read
    obtain ⟨payload, _, read⟩ := Option.bind_eq_some_iff.mp read
    obtain ⟨stack, opened, read⟩ := Option.bind_eq_some_iff.mp read
    obtain ⟨completed, done, read⟩ := Option.bind_eq_some_iff.mp read
    obtain ⟨lastTransition, last, read⟩ := Option.bind_eq_some_iff.mp read
    obtain ⟨iterations, counted, read⟩ := Option.bind_eq_some_iff.mp read
    obtain ⟨log, logged, read⟩ := Option.bind_eq_some_iff.mp read
    cases read
    obtain ⟨_, frames⟩ := Data.Field.of_required opened
    have frame : ∀ frame ∈ stack, frame.ReadsBack := by
      intro frame member
      obtain ⟨_, found⟩ := Data.mem_of_list? frames member
      exact Frame.readsBack_of_ofData? found
    refine ⟨⟨?_, fun each member => (frame each member).caller,
      fun each member => (frame each member).resume⟩, ?_, ?_, ?_, ?_⟩
    · exact StepId.readsBack_of_nullable next
    · intro id member
      obtain ⟨_, ids⟩ := Data.Field.of_required done
      obtain ⟨_, found⟩ := Data.mem_of_list? ids member
      exact StepId.readsBack_of_ofData? found
    · rintro record rfl
      obtain ⟨_, found⟩ := Data.Field.of_nullable last
      exact TransitionRecord.readsBack_of_ofData? found
    · obtain ⟨_, word⟩ := Data.Field.of_required counted
      exact Data.counter?_lt word
    · intro entry member
      obtain ⟨_, entries⟩ | rfl := Data.Field.of_withDefault logged
      · obtain ⟨_, found⟩ := Data.mem_of_list? entries member
        exact LogEntry.held_of_ofData? found
      · cases member
  · cases read

/-- A state that has been loaded can be stored again. -/
theorem held_of_load {files : FileSystem} {path : String} {state : RunState}
    (loaded : load files path = .ok state) : state.Held := by
  obtain ⟨text, _, loaded⟩ := bind_eq_ok.mp loaded
  split at loaded
  · rename_i read
    cases loaded
    obtain ⟨data, _, described⟩ := Option.bind_eq_some_iff.mp read
    exact held_of_ofData? described
  · cases loaded

end RunState
end StepGraph
