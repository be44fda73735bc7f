import StepGraph.Proofs.Engine.Facts
import StepGraph.Proofs.Engine.Reached
import StepGraph.Proofs.Executor.Registry

/-! How the executors of a configuration carry a history on. Each answer is what the plan of
its step keeps of the history, with one entry behind it that is called after the step and the
iteration. For that the layers of the context must not get into the history, and no entry of
the history may pass for a fact about the run: both are so as long as all entries have been
made by such executors, and then the new one is of the same make. -/
namespace StepGraph

/-- An entry that tells the output of a tool or a message of a step in an iteration. -/
def Entry.MadeFor (entry : Entry) (id : StepId) (iteration : Nat) : Prop :=
  (entry.id = s!"tool:{id.text}:{Text.Decimal.text iteration}" ∧ entry.kind = Kind.toolOutput) ∨
    (entry.id = s!"message:{id.text}:{Text.Decimal.text iteration}" ∧ entry.kind = Kind.message)

/-- All entries have been made by executors. -/
def Payload.Made (payload : Payload) : Prop :=
  ∀ entry ∈ payload, ∃ id iteration, entry.MadeFor id iteration

variable {entry : Entry} {id : StepId} {iteration : Nat} {payload : Payload}

private theorem Entry.MadeFor.kind (made : entry.MadeFor id iteration) :
    entry.kind = Kind.message ∨ entry.kind = Kind.toolOutput := by
  rcases made with ⟨_, tool⟩ | ⟨_, message⟩
  · exact Or.inr tool
  · exact Or.inl message

/-- Such an entry passes for no fact about the run. -/
theorem Entry.MadeFor.id_ne (made : entry.MadeFor id iteration) (key : String) :
    entry.id ≠ metadataId key := by
  intro same
  have text := congrArg String.toList same
  rcases made with ⟨called, _⟩ | ⟨called, _⟩
  · simp [called, metadataId, toString] at text
  · simp [called, metadataId, toString] at text

namespace Payload.Made

private theorem kinds (made : payload.Made) :
    ∀ entry ∈ payload, entry.kind = Kind.message ∨ entry.kind = Kind.toolOutput := by
  intro entry member
  obtain ⟨_, _, madeFor⟩ := made entry member
  exact madeFor.kind

private theorem isHistory (made : payload.Made) : payload.IsHistory := by
  intro entry member
  rcases made.kinds entry member with kind | kind
  · rw [kind]
    rfl
  · rw [kind]
    rfl

private theorem apply (made : payload.Made) (plan : Plan) : (plan.apply payload).Made :=
  fun entry member => made entry (Plan.mem_of_mem_apply member)

private theorem append_singleton (made : payload.Made) (madeFor : entry.MadeFor id iteration) :
    (payload ++ [entry]).Made := by
  intro other member
  rcases List.mem_append.mp member with earlier | last
  · exact made other earlier
  · rw [List.mem_singleton.mp last]
    exact ⟨id, iteration, madeFor⟩

end Payload.Made

namespace Stage

variable {stage : Stage} {dispatch : Dispatch} {answer : ExecutorResult} {manifest : Manifest}
  {group : String}

/-- The executors at a stage are those of a configuration, whatever their programs do. -/
inductive Configured : Stage → Prop
  | intro {engine : Engine Registry} {session : Session Registry} {config : Config}
      {launch : Launcher} (serves : engine.service = Registry.service launch)
      (registered : Registry.ofConfig config = .ok session.service) : Configured ⟨engine, session⟩

/-- The order at a stage is for its next step, and its answer leaves what the plan of the step
keeps of the history, with an entry behind it that is made for the step in this iteration. -/
structure Adds (stage : Stage) (dispatch : Dispatch) (entry : Entry) : Prop where
  dispatched : stage.dispatch = .ok dispatch
  waiting : stage.run.current = some dispatch.id
  declared : stage.manifest.step dispatch.id = .ok dispatch.step
  made : entry.MadeFor dispatch.id (stage.run.iterations + 1)
  history : stage.turned.run.payload = dispatch.step.plan.apply stage.run.payload ++ [entry]

/-- An answer at a stage is one to the order of the stage. -/
theorem executed_of_answer (answered : stage.answer? = some answer) :
    ∃ dispatch, stage.dispatch = .ok dispatch ∧
      (stage.engine.execute stage.session dispatch.order).1 = .ok answer := by
  unfold answer? Engine.answer? at answered
  split at answered
  · cases answered
  · split at answered
    · cases answered
    · rename_i dispatch dispatched
      refine ⟨dispatch, dispatched, ?_⟩
      cases replied : (stage.engine.execute stage.session dispatch.order).1 with
      | error failure =>
        rw [replied] at answered
        cases answered
      | ok given =>
        rw [replied] at answered
        exact congrArg Except.ok (Option.some.inj answered)

/-- Executors of a configuration answer with the conversation of their order and one entry. -/
theorem Configured.history_of_answer (configured : stage.Configured)
    (answered : stage.answer? = some answer) :
    ∃ dispatch entry, stage.dispatch = .ok dispatch ∧ dispatch.order.Adds entry ∧
      answer.payload = dispatch.order.historyWith entry := by
  obtain ⟨dispatch, dispatched, replied⟩ := executed_of_answer answered
  cases configured with
  | @intro engine session config launch serves registered =>
    rw [Engine.execute, serves] at replied
    obtain ⟨entry, adds, history⟩ :=
      Registry.history_of_execute registered (Prod.ext replied rfl)
    exact ⟨dispatch, entry, dispatched, adds, history⟩

/-- Behind a history made by executors, an order tells the facts about the run as they are. -/
theorem metadata?_of_made (dispatched : stage.dispatch = .ok dispatch)
    (made : stage.run.payload.Made) {fact : String × String} (told : fact ∈ stage.facts dispatch) :
    dispatch.order.metadata? fact.1 = some fact.2 := by
  obtain ⟨artifacts, inherited, assembles⟩ := assembles_of_dispatch dispatched
  refine assembles.metadata?_of_unclaimed told fun entry member => ?_
  obtain ⟨_, _, madeFor⟩ := made.apply dispatch.step.plan entry member
  exact madeFor.id_ne _

theorem metadata?_step (dispatched : stage.dispatch = .ok dispatch)
    (made : stage.run.payload.Made) :
    dispatch.order.metadata? "step_id" = some dispatch.id.text := by
  have told : ("step_id", dispatch.id.text) ∈ stage.facts dispatch := by simp [facts]
  exact metadata?_of_made dispatched made told

theorem metadata?_iteration (dispatched : stage.dispatch = .ok dispatch)
    (made : stage.run.payload.Made) :
    dispatch.order.metadata? "iteration" =
      some (Text.Decimal.text (stage.run.iterations + 1)) := by
  have told : ("iteration", Text.Decimal.text (stage.run.iterations + 1)) ∈
      stage.facts dispatch := by
    simp [facts]
  exact metadata?_of_made dispatched made told

/-- The ids of entries for an order tell its step and its iteration. -/
theorem entryId_eq (dispatched : stage.dispatch = .ok dispatch) (made : stage.run.payload.Made)
    (sort : String) :
    dispatch.order.entryId sort =
      s!"{sort}:{dispatch.id.text}:{Text.Decimal.text (stage.run.iterations + 1)}" := by
  unfold WorkOrder.entryId
  rw [metadata?_step dispatched made, metadata?_iteration dispatched made]
  rfl

/-- The conversation of an order is what the plan keeps of a history made by executors. -/
theorem conversation_eq (dispatched : stage.dispatch = .ok dispatch)
    (made : stage.run.payload.Made) :
    dispatch.order.context.conversation = dispatch.step.plan.apply stage.run.payload := by
  obtain ⟨artifacts, inherited, assembles⟩ := assembles_of_dispatch dispatched
  have renewed : ((stage.situation dispatch artifacts).layers dispatch.step inherited).IsRenewed :=
    Situation.isRenewed_layers assembles.silent
  rw [assembles.context, renewed.conversation_append]
  exact (made.apply dispatch.step.plan).isHistory.conversation_eq

/-- Behind a history made by executors, an answer adds one entry of the same make. -/
theorem Configured.adds (configured : stage.Configured) (made : stage.run.payload.Made)
    (answered : stage.answer? = some answer) : ∃ dispatch entry, stage.Adds dispatch entry := by
  obtain ⟨dispatch, entry, dispatched, adds, history⟩ := configured.history_of_answer answered
  obtain ⟨_, _, assembles⟩ := assembles_of_dispatch dispatched
  refine ⟨dispatch, entry, dispatched, assembles.waiting, assembles.declared, ?_, ?_⟩
  · exact adds.imp (fun tool => ⟨tool.1.trans (entryId_eq dispatched made _), tool.2⟩)
      (fun message => ⟨message.1.trans (entryId_eq dispatched made _), message.2⟩)
  · rw [turned_payload_of_answer answered, history, WorkOrder.historyWith,
      conversation_eq dispatched made]

end Stage

/-- The histories that a state holds: the one that goes on, and those in the log. -/
def RunState.histories (state : RunState) : List Payload :=
  state.payload :: state.log.map LogEntry.output

/-- All histories in a state have been made by executors. -/
def RunState.Made (state : RunState) : Prop := ∀ history ∈ state.histories, history.Made

namespace Stage

variable {stage : Stage} {manifest : Manifest} {group : String}

/-- A turn with executors of a configuration leaves histories made by executors. -/
theorem Configured.made_turned (configured : stage.Configured) (made : stage.run.Made) :
    stage.turned.run.Made := by
  have before : stage.run.payload.Made := made _ List.mem_cons_self
  have after : stage.turned.run.payload.Made := by
    rcases stage.turned_run with ⟨_, kept⟩ | ⟨answer, answered, _⟩
    · exact kept ▸ before
    · obtain ⟨dispatch, entry, adds⟩ := configured.adds before answered
      exact adds.history ▸ (before.apply dispatch.step.plan).append_singleton adds.made
  intro history among
  rcases List.mem_cons.mp among with rfl | logged
  · exact after
  rcases stage.turned_log with kept | ⟨added, more, output⟩
  · rw [kept] at logged
    exact made history (List.mem_cons_of_mem _ logged)
  · rw [more, List.map_append] at logged
    rcases List.mem_append.mp logged with earlier | last
    · exact made history (List.mem_cons_of_mem _ earlier)
    · rw [List.mem_singleton.mp last, output]
      exact after

/-- In a run with executors of configurations, all histories have been made by executors. -/
theorem Reached.made (reached : stage.Reached manifest group Configured) : stage.run.Made := by
  refine reached.keeps ?_ fun _ configured made => configured.made_turned made
  intro runId entry _ history among
  rw [List.mem_singleton.mp among]
  exact List.forall_mem_nil _

end Stage

/-- The executors of configurations carry the history of a run exactly, through all calls of
`resume`: all entries of the histories in its states are messages and outputs of tools; a turn
without an answer leaves the state as it is; and an answer leaves what the plan of the step
keeps of the history, with one entry behind it that is made for the step in this iteration. -/
theorem histories_grow_by_entries {stage : Stage} {manifest : Manifest} {group : String}
    (reached : stage.Reached manifest group Stage.Configured) (configured : stage.Configured) :
    (∀ history ∈ stage.run.histories ++ stage.turned.run.histories, ∀ entry ∈ history,
      entry.kind = Kind.message ∨ entry.kind = Kind.toolOutput) ∧
      (stage.answer? = none → stage.turned.run = stage.run) ∧
      ∀ answer, stage.answer? = some answer → ∃ dispatch entry, stage.Adds dispatch entry := by
  have made := reached.made
  refine ⟨?_, Stage.turned_run_of_unanswered,
    fun _ => configured.adds (made _ List.mem_cons_self)⟩
  intro history among
  rcases List.mem_append.mp among with before | after
  · exact (made history before).kinds
  · exact (configured.made_turned made history after).kinds

/-- A configuration with one executor, which runs a program. -/
def toolConfig : Config :=
  { Config.default with
    executors := SortedMap.ofList
      [("tool", .command { CommandSettings.default with command := ["check"] })] }

/-- The registry of that executor. -/
def toolRegistry : Registry := (Registry.ofConfig toolConfig).toOption.getD .empty

theorem toolRegistry_registered : Registry.ofConfig toolConfig = .ok toolRegistry := rfl

/-- All programs print nothing and exit with this code. -/
def exiting (code : Nat) : Launcher := fun _ _ _ files => (.ok ⟨[], [], .exited code, false⟩, files)

/-- A run of the manifest with that executor is about to begin. -/
def toolBegin (manifest : Manifest) (code : Nat) : Stage where
  engine : Engine Registry := ⟨manifest, Registry.service (exiting code), "/work", none, []⟩
  session := (Engine.newSession toolRegistry ⟨.fresh ["work"], false⟩).restarted
    (.startingAt "run-1" ⟨"Main", "A"⟩)

theorem toolBegin_reaches {manifest : Manifest} {code : Nat} {Kind : Stage → Prop}
    (begins : manifest.Begins "Main" ⟨"Main", "A"⟩) (kind : Kind (toolBegin manifest code)) :
    (toolBegin manifest code).onward.Reached manifest "Main" Kind :=
  .next (.start rfl begins) kind (Stage.follows_onward rfl begins.names)

/-- Behind the output of the first step, the second step adds its own. -/
theorem relay_grows_by_entries :
    toolConfig.fault? = none ∧
      (toolBegin relay 0).onward.Reached relay "Main" Stage.Configured ∧
      (toolBegin relay 0).onward.Configured ∧
      (∃ dispatch entry, (toolBegin relay 0).onward.Adds dispatch entry) ∧
      (toolBegin relay 0).onward.turned.run.payload.map Entry.id =
        ["tool:Main__A:1", "tool:Main__B:2"] := by
  have first : (toolBegin relay 0).Configured := .intro rfl toolRegistry_registered
  have next : (toolBegin relay 0).onward.Configured := .intro rfl toolRegistry_registered
  have reached : (toolBegin relay 0).onward.Reached relay "Main" Stage.Configured :=
    toolBegin_reaches relay_begins first
  obtain ⟨_, _, adds⟩ := histories_grow_by_entries reached next
  have answered : (toolBegin relay 0).onward.answer?.isSome := by decide
  obtain ⟨answer, answered⟩ := Option.isSome_iff_exists.mp answered
  exact ⟨by decide, reached, next, adds answer answered, by decide +kernel⟩

end StepGraph
