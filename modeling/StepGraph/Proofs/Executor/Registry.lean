import StepGraph.Executor.Registry
import StepGraph.Proofs.Manifest.Lookups

/-! What the executors of a configuration hand back. A command and an agent do much before they
answer, and either may fail on the way; but all that they make of the history is one entry
behind the conversation of their order, under an id that the order tells them. What a program
prints, writes or exits with decides on the content of that entry and on the outcome. -/
namespace StepGraph

namespace Workspace.Task

variable {α β : Type} {workspace final : Workspace} {value : β}

/-- A task in two parts gives a result when both do. -/
theorem bind_eq_ok {task : Task α} {next : α → Task β} :
    (task >>= next).run workspace = (.ok value, final) ↔
      ∃ found between, task.run workspace = (.ok found, between) ∧
        (next found).run between = (.ok value, final) := by
  show Task.andThen task next workspace = _ ↔ _
  unfold Task.andThen Task.run
  rcases task workspace with ⟨failure | found, between⟩
  · simp
  · constructor
    · exact fun done => ⟨found, between, rfl, done⟩
    · rintro ⟨_, _, same, done⟩
      cases same
      exact done

theorem pure_eq_ok {given : β} :
    (pure given : Task β).run workspace = (.ok value, final) ↔
      given = value ∧ workspace = final := by
  show (Except.ok given, workspace) = _ ↔ _
  simp

theorem look_eq_ok {look : FileSystem → Except Failure β} :
    (Task.look look).run workspace = (.ok value, final) ↔
      look workspace.files = .ok value ∧ workspace = final := by
  show (look workspace.files, workspace) = _ ↔ _
  simp

theorem ask_eq_ok {look : FileSystem → β} :
    (Task.ask look).run workspace = (.ok value, final) ↔
      look workspace.files = value ∧ workspace = final := by
  show (Except.ok (look workspace.files), workspace) = _ ↔ _
  simp

theorem during_eq_ok {task : Task β} {attempt : Fault} :
    (task.during attempt).run workspace = (.ok value, final) ↔
      task.run workspace = (.ok value, final) := by
  unfold Task.run Task.during
  rcases task workspace with ⟨failure | found, between⟩
  · simp
  · simp

/-- A change that succeeds changes the files alone. -/
theorem change_eq_ok {attempt : Fault}
    {operation : FileSystem → Except IoError Unit × FileSystem} {done : Unit} :
    (Task.change attempt operation).run workspace = (.ok done, final) ↔
      ∃ files, operation workspace.files = (.ok (), files) ∧ final = { workspace with files } := by
  unfold Task.run Task.change
  rcases operation workspace.files with ⟨error | done, files⟩
  · simp
  · simp [eq_comm]

end Workspace.Task

/-- The entry that an executor adds for an order: the output of a tool or a message, under the
id that the order gives to entries of its sort. -/
def WorkOrder.Adds (order : WorkOrder) (entry : Entry) : Prop :=
  (entry.id = order.entryId "tool" ∧ entry.kind = Kind.toolOutput) ∨
    (entry.id = order.entryId "message" ∧ entry.kind = Kind.message)

variable {order : WorkOrder} {launch : Launcher} {workspace later : Workspace}
  {answer : ExecutorResult} {config : Config} {registry : Registry}

private theorem CommandExecutor.history_of_handle {command : CommandExecutor}
    (handled : (command.handle launch order).run workspace = (.ok answer, later)) :
    ∃ entry, order.Adds entry ∧ answer.payload = order.historyWith entry := by
  obtain ⟨output, _, _, answered⟩ := Workspace.Task.bind_eq_ok.mp handled
  obtain ⟨rfl, _⟩ := Workspace.Task.pure_eq_ok.mp answered
  exact ⟨_, Or.inl ⟨rfl, rfl⟩, rfl⟩

private theorem AgentExecutor.history_of_handle {agent : AgentExecutor}
    (handled : (agent.handle launch order).run workspace = (.ok answer, later)) :
    ∃ entry, order.Adds entry ∧ answer.payload = order.historyWith entry := by
  obtain ⟨_, _, _, handled⟩ := Workspace.Task.bind_eq_ok.mp handled
  obtain ⟨output, _, _, handled⟩ := Workspace.Task.bind_eq_ok.mp handled
  obtain ⟨_, _, _, handled⟩ := Workspace.Task.bind_eq_ok.mp handled
  split at handled
  · cases handled
  · obtain ⟨said, _, _, answered⟩ := Workspace.Task.bind_eq_ok.mp handled
    obtain ⟨rfl, _⟩ := Workspace.Task.pure_eq_ok.mp answered
    exact ⟨_, Or.inr ⟨rfl, rfl⟩, rfl⟩

theorem SortedMap.mem_insertEntry {α : Type} {key : String} {value : α}
    {entries : List (String × α)} {entry : String × α}
    (member : entry ∈ SortedMap.insertEntry key value entries) :
    entry = (key, value) ∨ entry ∈ entries := by
  induction entries with
  | nil => exact Or.inl (List.mem_singleton.mp member)
  | cons head rest ih =>
    unfold SortedMap.insertEntry at member
    split at member
    · exact List.mem_cons.mp member
    · split at member
      · rcases List.mem_cons.mp member with rfl | behind
        · exact Or.inr List.mem_cons_self
        · exact (ih behind).imp_right (List.mem_cons_of_mem _)
      · exact (List.mem_cons.mp member).imp_right (List.mem_cons_of_mem _)

/-- The executors of a configuration are those that its settings describe, under their names. -/
theorem Registry.mem_of_ofConfig (made : Registry.ofConfig config = .ok registry)
    {entry : String × Executor} (member : entry ∈ registry.executors.entries) :
    ∃ settings, (entry.1, settings) ∈ config.executors.entries ∧
      entry.2 = .ofSettings entry.1 settings := by
  -- What has been registered is described by settings in front of those that are still to come.
  suffices added : ∀ (settings : List (String × ExecutorSettings)) (before : Registry),
      settings.foldlM (fun registry entry =>
        registry.register entry.1 (.ofSettings entry.1 entry.2)) before = .ok registry →
      entry ∈ before.executors.entries ∨
        ∃ described, (entry.1, described) ∈ settings ∧
          entry.2 = .ofSettings entry.1 described by
    rcases added _ _ made with impossible | described
    · cases impossible
    · exact described
  intro settings
  induction settings with
  | nil =>
    intro before same
    cases same
    exact Or.inl member
  | cons first rest ih =>
    intro before folded
    rw [List.foldlM_cons] at folded
    obtain ⟨next, registered, others⟩ := bind_eq_ok.mp folded
    unfold Registry.register at registered
    split at registered
    · cases registered
    · cases registered
      rcases ih _ others with inserted | ⟨described, behind, same⟩
      · rcases SortedMap.mem_insertEntry inserted with rfl | earlier
        · exact Or.inr ⟨first.2, List.mem_cons_self, rfl⟩
        · exact Or.inl earlier
      · exact Or.inr ⟨described, List.mem_cons_of_mem _ behind, same⟩

/-- An answer of the executors of a configuration is the conversation of the order with one
entry behind it. -/
theorem Registry.history_of_execute (made : Registry.ofConfig config = .ok registry)
    (executed : (registry.execute launch order).run workspace = (.ok answer, later)) :
    ∃ entry, order.Adds entry ∧ answer.payload = order.historyWith entry := by
  unfold Registry.execute at executed
  split at executed
  · cases executed
  · rename_i executor found
    obtain ⟨settings, _, described⟩ :=
      Registry.mem_of_ofConfig made (SortedMap.get?_eq_some.mp found)
    simp only at described
    subst described
    cases settings with
    | command settings => exact CommandExecutor.history_of_handle executed
    | agent settings => exact AgentExecutor.history_of_handle executed

end StepGraph
