import StepGraph.Proofs.Engine.Growth
import StepGraph.Proofs.Json.Scalars

/-! The ids of the entries in a history. An entry is called after its step and its iteration,
and the iteration can be told from the id. So the ids of a history are different as long as
each entry has an iteration of its own: the entries that are there have been made in earlier
iterations, and the new one is made in the next. That is so while every answer is followed.
An answer that cannot be followed leaves its entry in the history without an iteration that
counts, and the step that is then tried again adds another of the same id. -/
namespace StepGraph

/-- An entry is made in no more than one iteration. -/
theorem Entry.MadeFor.iteration_eq {entry other : Entry} {id step : StepId}
    {iteration further : Nat} (made : entry.MadeFor id iteration)
    (again : other.MadeFor step further) (same : entry.id = other.id) : iteration = further := by
  have ends {entry : Entry} {id : StepId} {iteration : Nat} (made : entry.MadeFor id iteration) :
      ∃ front, entry.id.toList = front ++ ':' :: Text.Decimal.digits iteration := by
    rcases made with ⟨called, _⟩ | ⟨called, _⟩
    · exact ⟨("tool:" ++ id.text).toList, by simp [called, toString, Text.Decimal.text]⟩
    · exact ⟨("message:" ++ id.text).toList, by simp [called, toString, Text.Decimal.text]⟩
  obtain ⟨front, text⟩ := ends made
  obtain ⟨front', text'⟩ := ends again
  rw [same, text'] at text
  exact (Text.Decimal.eq_of_numbered (by decide) text.symm).2

/-- The entries of the history have different ids, and all have been made in iterations that
have been counted. -/
structure RunState.Distinct (state : RunState) : Prop where
  ids : (state.payload.map Entry.id).Nodup
  counted : ∀ entry ∈ state.payload, ∃ id iteration,
    entry.MadeFor id iteration ∧ iteration ≤ state.iterations

private theorem RunState.Distinct.made {state : RunState} (distinct : state.Distinct) :
    state.payload.Made := by
  intro entry member
  obtain ⟨id, iteration, made, _⟩ := distinct.counted entry member
  exact ⟨id, iteration, made⟩

namespace Stage

variable {stage : Stage} {dispatch : Dispatch} {entry : Entry} {manifest : Manifest}
  {group : String}

/-- An answer at the stage is followed. -/
def Settles (stage : Stage) : Prop := ∀ answer, stage.answer? = some answer → stage.Goes

/-- The entry of an answer has another id than all that have been made in earlier iterations. -/
theorem Adds.ids (adds : stage.Adds dispatch entry) (distinct : stage.run.Distinct) :
    (stage.turned.run.payload.map Entry.id).Nodup := by
  have kept : ((dispatch.step.plan.apply stage.run.payload).map Entry.id).Nodup := by
    obtain ⟨selected, same, sublist⟩ := dispatch.step.plan.apply_subperm stage.run.payload
    exact (same.map Entry.id).nodup_iff.mp (distinct.ids.sublist (sublist.map Entry.id))
  rw [adds.history, List.map_append]
  refine List.nodup_append.mpr ⟨kept, by simp, ?_⟩
  intro earlier among last added same
  obtain ⟨other, member, rfl⟩ := List.mem_map.mp among
  rw [List.mem_singleton.mp added] at same
  obtain ⟨_, iteration, made, counted⟩ := distinct.counted other (Plan.mem_of_mem_apply member)
  have late := made.iteration_eq adds.made same
  omega

/-- When an answer is followed, its entry has been made in an iteration that counts. -/
theorem Adds.distinct (adds : stage.Adds dispatch entry) (distinct : stage.run.Distinct)
    (goes : stage.Goes) : stage.turned.run.Distinct := by
  refine ⟨adds.ids distinct, ?_⟩
  rw [goes.counts.1, adds.history]
  intro other among
  rcases List.mem_append.mp among with earlier | last
  · obtain ⟨id, iteration, made, counted⟩ :=
      distinct.counted other (Plan.mem_of_mem_apply earlier)
    exact ⟨id, iteration, made, Nat.le_succ_of_le counted⟩
  · rw [List.mem_singleton.mp last]
    exact ⟨_, _, adds.made, Nat.le_refl _⟩

/-- Ids stay different in turns whose answers are followed. -/
theorem Configured.distinct_turned (configured : stage.Configured) (settles : stage.Settles)
    (distinct : stage.run.Distinct) : stage.turned.run.Distinct := by
  rcases stage.turned_run with ⟨_, kept⟩ | ⟨answer, answered, _⟩
  · exact kept ▸ distinct
  · obtain ⟨dispatch, entry, adds⟩ := configured.adds distinct.made answered
    exact adds.distinct distinct (settles answer answered)

private theorem Reached.distinct
    (reached : stage.Reached manifest group fun stage => stage.Configured ∧ stage.Settles) :
    stage.run.Distinct := by
  refine reached.keeps (fun _ _ _ => ⟨List.nodup_nil, List.forall_mem_nil _⟩) ?_
  exact fun _ kind distinct => kind.1.distinct_turned kind.2 distinct

end Stage

/-- In a run with executors of configurations, with all calls of `resume` on it, the entries of
the history have different ids at every stage and behind every turn, as long as no stage has
been left with an answer that is not followed. -/
theorem followed_entry_ids_differ {stage : Stage} {manifest : Manifest} {group : String}
    (reached : stage.Reached manifest group fun stage => stage.Configured ∧ stage.Settles)
    (configured : stage.Configured) :
    (stage.run.payload.map Entry.id).Nodup ∧ (stage.turned.run.payload.map Entry.id).Nodup := by
  have distinct := reached.distinct
  refine ⟨distinct.ids, ?_⟩
  rcases stage.turned_run with ⟨_, kept⟩ | ⟨answer, answered, _⟩
  · exact kept ▸ distinct.ids
  · obtain ⟨dispatch, entry, adds⟩ := configured.adds distinct.made answered
    exact adds.ids distinct

/-- The outputs of the two steps of `relay` are told apart by their ids. -/
theorem relay_entry_ids_differ :
    ((toolBegin relay 0).onward.Reached relay "Main" fun stage =>
        stage.Configured ∧ stage.Settles) ∧
      (toolBegin relay 0).onward.Configured ∧
      (toolBegin relay 0).onward.turned.run.payload.length = 2 ∧
      ((toolBegin relay 0).onward.turned.run.payload.map Entry.id).Nodup := by
  have first : (toolBegin relay 0).Configured := .intro rfl toolRegistry_registered
  have next : (toolBegin relay 0).onward.Configured := .intro rfl toolRegistry_registered
  have goes : (toolBegin relay 0).Goes := by decide
  have reached : (toolBegin relay 0).onward.Reached relay "Main" fun stage =>
      stage.Configured ∧ stage.Settles :=
    toolBegin_reaches relay_begins ⟨first, fun _ _ => goes⟩
  exact ⟨reached, next, by decide, (followed_entry_ids_differ reached next).2⟩

/-- A step whose program has to succeed. -/
def exacting : Manifest :=
  .small [("Main", [("A", .routing [⟨"SUCCESS", "RETURN"⟩])])]

/-- A program that fails without a transition for it leaves its output in the history; when the
run is resumed and it fails again, there are two outputs of the same id. -/
theorem retried_entry_ids_repeat :
    toolConfig.fault? = none ∧
      (toolBegin exacting 1).result? =
        some (.error (.noTransition ⟨"Main", "A"⟩ "FAILURE")) ∧
      (toolBegin exacting 1).onward.Reached exacting "Main" Stage.Configured ∧
      (toolBegin exacting 1).onward.Configured ∧
      (toolBegin exacting 1).onward.turned.run.payload.map Entry.id =
        ["tool:Main__A:1", "tool:Main__A:1"] ∧
      ¬ ((toolBegin exacting 1).onward.turned.run.payload.map Entry.id).Nodup := by
  have begins : exacting.Begins "Main" ⟨"Main", "A"⟩ := ⟨by decide, by decide⟩
  have first : (toolBegin exacting 1).Configured := .intro rfl toolRegistry_registered
  have next : (toolBegin exacting 1).onward.Configured := .intro rfl toolRegistry_registered
  have reached : (toolBegin exacting 1).onward.Reached exacting "Main" Stage.Configured :=
    toolBegin_reaches begins first
  have repeated : (toolBegin exacting 1).onward.turned.run.payload.map Entry.id =
      ["tool:Main__A:1", "tool:Main__A:1"] := by
    decide +kernel
  refine ⟨by decide, by decide, reached, next, repeated, ?_⟩
  rw [repeated]
  decide

end StepGraph
