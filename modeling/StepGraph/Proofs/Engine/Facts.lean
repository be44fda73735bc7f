import StepGraph.Executor.Agent
import StepGraph.Proofs.Engine.History
import StepGraph.Proofs.Prompt.Sections

/-! How a step learns about its run. The facts stand behind everything else in a context, as
entries of a kind of their own, and are looked up in two ways. A prompt looks among the
entries of that kind, and finds those of its own iteration. A work order looks for their ids
alone, from the front: there the history comes first, so the facts are found unless the
history has an entry of the same id. -/
namespace StepGraph

/-- The entry that tells a fact. -/
def Entry.ofFact (fact : String × String) : Entry := ⟨metadataId fact.1, Kind.metadata, fact.2⟩

private theorem metadataId_inj {first second : String} :
    metadataId first = metadataId second ↔ first = second := by
  simp [metadataId]

/-- Among entries that tell facts, the id of a fact leads where its key leads among the facts. -/
theorem content_find?_ofFact (facts : List (String × String)) (key : String) :
    ((facts.map Entry.ofFact).find? (·.id = metadataId key)).map Entry.content =
      (facts.find? (·.1 = key)).map Prod.snd := by
  have keyed : (fun entry : Entry => decide (entry.id = metadataId key)) ∘ Entry.ofFact =
      fun fact => decide (fact.1 = key) := by
    funext fact
    simp [Entry.ofFact, metadataId_inj]
  rw [List.find?_map, Option.map_map, keyed]
  rfl

/-- Behind its first part, the id of a fact has the key. -/
theorem Sections.behind_metadataId (key : String) :
    Sections.behind "meta:" (metadataId key) = key := by
  have length : "meta:".length = 5 := rfl
  simp [Sections.behind, metadataId, length]

namespace Stage

variable {stage : Stage} {dispatch : Dispatch} {artifacts : List Artifact} {inherited : Payload}
  {manifest : Manifest} {group : String}

/-- The facts about the run at a stage, under the keys by which they are asked for. -/
def facts (stage : Stage) (dispatch : Dispatch) : List (String × String) :=
  [("run_id", stage.run.runId), ("sandbox_path", stage.engine.sandbox),
    ("step_id", dispatch.id.text), ("iteration", Text.Decimal.text (stage.run.iterations + 1)),
    ("call_depth", Text.Decimal.text stage.run.stack.length)]

private theorem find?_facts {fact : String × String} (told : fact ∈ stage.facts dispatch) :
    ((stage.facts dispatch).find? (·.1 = fact.1)).map Prod.snd = some fact.2 := by
  have distinct : ((stage.facts dispatch).map Prod.fst).Nodup := by simp [facts]
  exact (find_entry_iff distinct).mpr told

private theorem metadata_situation :
    (stage.situation dispatch artifacts).metadata = (stage.facts dispatch).map Entry.ofFact :=
  rfl

/-- What the plan of the next step keeps of the history. -/
def kept (stage : Stage) (dispatch : Dispatch) : Payload :=
  dispatch.step.plan.apply stage.run.payload

/-- Behind a history without layers, the facts are all there is of their kind. -/
theorem Assembles.metadata (assembles : stage.Assembles dispatch artifacts inherited)
    (isHistory : stage.run.payload.IsHistory) :
    (Sections.ofContext dispatch.order.context).metadata = stage.facts dispatch := by
  have grouped : Section.run.entries dispatch.order.context =
      (stage.facts dispatch).map Entry.ofFact := by
    rw [Section.entries_of_kind rfl, assembles.context,
      Situation.ofKind_metadata assembles.silent (isHistory.apply dispatch.step.plan),
      metadata_situation]
  have labelled : Sections.labelled "meta:" ∘ Entry.ofFact = id := by
    funext fact
    exact congrArg (·, fact.2) (Sections.behind_metadataId fact.1)
  rw [Sections.ofContext_eq, grouped, List.map_map, labelled, List.map_id]

/-- An order tells a fact as the first entry of the history tells it that has the id of the
fact, or else as it is. -/
theorem Assembles.metadata? (assembles : stage.Assembles dispatch artifacts inherited)
    {fact : String × String} (told : fact ∈ stage.facts dispatch) :
    dispatch.order.metadata? fact.1 =
      some ((((stage.kept dispatch).find? (·.id = metadataId fact.1)).map Entry.content).getD
        fact.2) := by
  unfold WorkOrder.metadata? Stage.kept
  rw [assembles.context, Situation.find?_metadataId assembles.silent, metadata_situation]
  cases (dispatch.step.plan.apply stage.run.payload).find? (·.id = metadataId fact.1) with
  | some entry => rfl
  | none =>
    rw [Option.none_or, content_find?_ofFact, find?_facts told]
    rfl

/-- A fact is told as it is when no entry that is kept of the history has its id. -/
theorem Assembles.metadata?_of_unclaimed (assembles : stage.Assembles dispatch artifacts inherited)
    {fact : String × String} (told : fact ∈ stage.facts dispatch)
    (unclaimed : ∀ entry ∈ stage.kept dispatch, entry.id ≠ metadataId fact.1) :
    dispatch.order.metadata? fact.1 = some fact.2 := by
  have absent : (stage.kept dispatch).find? (·.id = metadataId fact.1) = none :=
    List.find?_eq_none.mpr fun entry member same =>
      unclaimed entry member (of_decide_eq_true same)
  rw [assembles.metadata? told, absent]
  rfl

end Stage

/-- In a run whose executors hand back history alone, a prompt lists the facts of its own
iteration and is headed by its own step. An order tells a fact as the first entry of the
history does that has the fact's id, and otherwise as it is: then the names that are made of
the step and the iteration are those of this iteration. -/
theorem orders_tell_facts {stage : Stage} {dispatch : Dispatch} {manifest : Manifest}
    {group : String} (ofRun : stage.OfRun manifest group ExecutorResult.IsHistory)
    (dispatched : stage.dispatch = .ok dispatch) :
    stage.run.current = some dispatch.id ∧
      (Sections.ofContext dispatch.order.context).metadata = stage.facts dispatch ∧
      (Sections.ofContext dispatch.order.context).stepId = dispatch.id.text ∧
      (∀ fact ∈ stage.facts dispatch, dispatch.order.metadata? fact.1 =
        some ((((stage.kept dispatch).find? (·.id = metadataId fact.1)).map Entry.content).getD
          fact.2)) ∧
      ((∀ entry ∈ stage.kept dispatch,
          entry.id ≠ metadataId "step_id" ∧ entry.id ≠ metadataId "iteration") →
        (∀ kind, dispatch.order.entryId kind =
          s!"{kind}:{dispatch.id.text}:{Text.Decimal.text (stage.run.iterations + 1)}") ∧
        AgentExecutor.attempt dispatch.order =
          s!"{dispatch.id.text}.{Text.Decimal.text (stage.run.iterations + 1)}") := by
  obtain ⟨artifacts, inherited, assembles⟩ := Stage.assembles_of_dispatch dispatched
  have metadata := assembles.metadata ofRun.isHistory
  have stepTold : ("step_id", dispatch.id.text) ∈ stage.facts dispatch := by simp [Stage.facts]
  have iterationTold : ("iteration", Text.Decimal.text (stage.run.iterations + 1)) ∈
      stage.facts dispatch := by simp [Stage.facts]
  refine ⟨assembles.waiting, metadata, ?_, fun fact told => assembles.metadata? told, ?_⟩
  · unfold Sections.stepId
    rw [metadata, Stage.find?_facts stepTold]
    rfl
  · intro unclaimed
    have step := assembles.metadata?_of_unclaimed stepTold fun entry member =>
      (unclaimed entry member).1
    have iteration := assembles.metadata?_of_unclaimed iterationTold fun entry member =>
      (unclaimed entry member).2
    unfold WorkOrder.entryId AgentExecutor.attempt
    rw [step, iteration]
    exact ⟨fun _ => rfl, rfl⟩

/-- A message claims no fact, and the second step is told its own. -/
theorem relay_tells_facts :
    (relayNext (.append relayMessage)).OfRun relay "Main" ExecutorResult.IsHistory ∧
      (relayNext (.append relayMessage)).dispatch = .ok (relayDispatch relayMessage) ∧
      (Sections.ofContext (relayDispatch relayMessage).order.context).stepId = "Main__B" ∧
      (relayDispatch relayMessage).order.entryId "message" = "message:Main__B:2" ∧
      AgentExecutor.attempt (relayDispatch relayMessage).order = "Main__B.2" := by
  obtain ⟨_, _, heading, _, named⟩ := orders_tell_facts relay_remembers relay_dispatches
  obtain ⟨entryId, attempt⟩ := named (by decide)
  exact ⟨relay_remembers, relay_dispatches, heading.trans (by decide),
    (entryId "message").trans (by decide +kernel), attempt.trans (by decide +kernel)⟩

/-- A message that has the id of a fact. -/
def relayClaim : Payload := [⟨metadataId "step_id", Kind.message, "Ghost__X"⟩]

/-- Such a message is taken for the fact: the order of the second step tells another step, and
so do the names that are made of it, while the prompt is headed by the step itself. -/
theorem message_passes_for_fact :
    (relayNext (.append relayClaim)).OfRun relay "Main" ExecutorResult.IsHistory ∧
      (relayNext (.append relayClaim)).dispatch = .ok (relayDispatch relayClaim) ∧
      (relayDispatch relayClaim).id = ⟨"Main", "B"⟩ ∧
      (relayDispatch relayClaim).order.metadata? "step_id" = some "Ghost__X" ∧
      (relayDispatch relayClaim).order.entryId "message" = "message:Ghost__X:2" ∧
      AgentExecutor.attempt (relayDispatch relayClaim).order = "Ghost__X.2" ∧
      (Sections.ofContext (relayDispatch relayClaim).order.context).stepId = "Main__B" := by
  have answered : (relayBegin (.append relayClaim)).answer? = some ⟨relayClaim, "SUCCESS"⟩ := by
    decide
  refine ⟨relayNext_ofRun (by decide) answered (by decide), ?_⟩
  decide +kernel

end StepGraph
