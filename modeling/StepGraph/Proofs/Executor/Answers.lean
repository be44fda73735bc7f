import StepGraph.Proofs.Engine.Orders
import StepGraph.Proofs.Engine.Safety
import StepGraph.Proofs.Engine.Sequence
import StepGraph.Proofs.Executor.Registry

/-! Outcomes of the executors of a configuration. How a command ends picks one of the outcomes
that its settings give it, and none of them is the fallback's own name. An agent is told which
outcomes to choose from, by its prompt and by the schema of its answer, but nothing holds what it
writes against them: its outcome is whatever its file says. -/
namespace StepGraph

variable {config : Config} {order : WorkOrder} {launch : Launcher} {workspace later : Workspace}
  {files : FileSystem} {answer : ExecutorResult} {registry : Registry} {outcome : String}

/-- The outcomes that settings name. -/
def ExecutorSettings.outcomes : ExecutorSettings → List String
  | .command settings => settings.outcomes
  | .agent settings => settings.outcomes

private theorem ne_fallback_of_outcomeFault? (sound : outcomeFault? outcome = none) :
    outcome ≠ fallbackOutcome := by
  rintro rfl
  have faulty : (outcomeFault? fallbackOutcome).isSome := by decide
  rw [sound] at faulty
  cases faulty

private theorem ExecutorSettings.fallback_not_mem {settings : ExecutorSettings}
    (sound : settings.fault? = none) : fallbackOutcome ∉ settings.outcomes := by
  have each : settings.outcomes.findSome? outcomeFault? = none := by
    cases settings with
    | command settings => exact (Option.or_eq_none_iff.mp sound).2
    | agent settings => exact (Option.or_eq_none_iff.mp sound).2
  intro member
  exact ne_fallback_of_outcomeFault? (List.findSome?_eq_none_iff.mp each _ member) rfl

/-- No executor of a configuration that is accepted may choose the fallback's own name. -/
theorem Config.fallback_not_mem (accepted : config.fault? = none) {name : String}
    {settings : ExecutorSettings} (configured : config.executors.get? name = some settings) :
    fallbackOutcome ∉ settings.outcomes := by
  have each := (Option.or_eq_none_iff.mp accepted).2
  have sound := List.findSome?_eq_none_iff.mp each _ (SortedMap.get?_eq_some.mp configured)
  exact ExecutorSettings.fallback_not_mem (Option.map_eq_none_iff.mp sound)

private theorem SortedMap.contains_insert {α : Type} {map : SortedMap α} {key name : String}
    {value : α} (absent : map.contains name = false) (other : name ≠ key) :
    (map.insert key value).contains name = false := by
  cases found : (map.insert key value).get? name with
  | none => rw [SortedMap.contains, found, Option.isSome_none]
  | some present =>
    rcases SortedMap.mem_insertEntry (SortedMap.get?_eq_some.mp found) with added | before
    · exact absurd (congrArg Prod.fst added) other
    · rw [SortedMap.contains, SortedMap.get?_eq_some.mpr before] at absent
      cases absent

/-- The executors of a configuration can all be registered, for no two have one name. -/
theorem Registry.exists_ofConfig (config : Config) :
    ∃ registry, Registry.ofConfig config = .ok registry := by
  suffices registers : ∀ (settings : List (String × ExecutorSettings)) (before : Registry),
      (settings.map Prod.fst).Nodup →
      (∀ entry ∈ settings, before.executors.contains entry.1 = false) →
      ∃ registry, settings.foldlM (fun registry entry =>
        registry.register entry.1 (.ofSettings entry.1 entry.2)) before = .ok registry by
    refine registers _ _ ?_ fun _ _ => rfl
    exact config.executors.sorted_keys.imp fun before => String.ne_of_lt before
  intro settings
  induction settings with
  | nil => exact fun before _ _ => ⟨before, rfl⟩
  | cons first rest ih =>
    intro before distinct free
    rw [List.map_cons, List.nodup_cons] at distinct
    have freed : ∀ entry ∈ rest,
        (before.executors.insert first.1 (.ofSettings first.1 first.2)).contains entry.1 =
          false := by
      intro entry member
      refine SortedMap.contains_insert (free entry (List.mem_cons_of_mem _ member)) ?_
      exact fun same => distinct.1 (same ▸ List.mem_map_of_mem member)
    obtain ⟨registry, others⟩ := ih ⟨before.executors.insert _ _⟩ distinct.2 freed
    refine ⟨registry, ?_⟩
    rw [List.foldlM_cons, Registry.register, free first List.mem_cons_self]
    exact others

/-- A command answers with one of its three outcomes. -/
theorem CommandExecutor.outcome_of_handle {command : CommandExecutor}
    (handled : (command.handle launch order).run workspace = (.ok answer, later)) :
    answer.outcome ∈ [command.success, command.failure, command.late] := by
  obtain ⟨output, _, _, answered⟩ := Workspace.Task.bind_eq_ok.mp handled
  obtain ⟨rfl, _⟩ := Workspace.Task.pure_eq_ok.mp answered
  show command.outcomeOf output ∈ _
  unfold CommandExecutor.outcomeOf
  split
  · simp
  · split <;> simp

/-- An agent answers with the outcome that its file gives. -/
theorem AgentExecutor.outcome_of_handle {agent : AgentExecutor}
    (handled : (agent.handle launch order).run workspace = (.ok answer, later)) :
    ∃ said, AgentExecutor.readAnswer (agent.answerPath order) later.files = .ok said ∧
      said.outcome = answer.outcome := by
  obtain ⟨_, _, _, handled⟩ := Workspace.Task.bind_eq_ok.mp handled
  obtain ⟨output, _, _, handled⟩ := Workspace.Task.bind_eq_ok.mp handled
  obtain ⟨_, _, _, handled⟩ := Workspace.Task.bind_eq_ok.mp handled
  split at handled
  · cases handled
  · obtain ⟨said, _, looked, answered⟩ := Workspace.Task.bind_eq_ok.mp handled
    obtain ⟨read, rfl⟩ := Workspace.Task.look_eq_ok.mp looked
    obtain ⟨rfl, rfl⟩ := Workspace.Task.pure_eq_ok.mp answered
    exact ⟨said, read, rfl⟩

/-- The order is for a command of the configuration, and the outcome is one of those that its
settings give it. -/
def Config.CommandMeans (config : Config) (order : WorkOrder) (outcome : String) : Prop :=
  ∃ settings, config.executors.get? order.executor = some (.command settings) ∧
    outcome ∈ settings.outcomes

/-- The order is for an agent of the configuration, and the outcome is the one that its file
gives. -/
def Config.AgentSays (config : Config) (order : WorkOrder) (files : FileSystem)
    (outcome : String) : Prop :=
  ∃ settings agent said, config.executors.get? order.executor = some (.agent settings) ∧
    Executor.ofSettings order.executor (.agent settings) = .agent agent ∧
    AgentExecutor.readAnswer (agent.answerPath order) files = .ok said ∧ said.outcome = outcome

/-- An answer of the executors of a configuration has an outcome that a command means or an agent
has written. -/
theorem Registry.outcome_of_execute (made : Registry.ofConfig config = .ok registry)
    (executed : (registry.execute launch order).run workspace = (.ok answer, later)) :
    config.CommandMeans order answer.outcome ∨
      config.AgentSays order later.files answer.outcome := by
  unfold Registry.execute at executed
  split at executed
  · cases executed
  · rename_i executor found
    obtain ⟨settings, member, described⟩ :=
      Registry.mem_of_ofConfig made (SortedMap.get?_eq_some.mp found)
    have configured := SortedMap.get?_eq_some.mpr member
    simp only at described
    subst described
    cases settings with
    | command settings =>
      exact Or.inl ⟨settings, configured, CommandExecutor.outcome_of_handle executed⟩
    | agent settings =>
      obtain ⟨said, read, same⟩ := AgentExecutor.outcome_of_handle executed
      exact Or.inr ⟨settings, _, said, configured, rfl, read, same⟩

variable {engine : Engine Registry} {session next final : Session Registry} {id : StepId}

private theorem Engine.execute_eq_of_registry (serves : engine.service = Registry.service launch)
    {reply : Except Failure ExecutorResult}
    (replied : engine.execute session order = (reply, next)) :
    (session.service.execute launch order).run session.workspace = (reply, next.workspace) ∧
      next.service = session.service := by
  rw [Engine.execute, serves] at replied
  cases replied
  exact ⟨rfl, rfl⟩

/-- The executors stay as they are while the loop goes on. -/
theorem Engine.service_of_go (serves : engine.service = Registry.service launch)
    (goes : engine.turn session = .go next) : next.service = session.service := by
  obtain ⟨_, later, _, _, _, ran, rfl⟩ := Engine.turn_eq_go_iff.mp goes
  cases Engine.iterates ran with
  | advanced _ replied _ =>
    have kept := (Engine.execute_eq_of_registry serves replied).2
    exact kept

private theorem Step.reserved_of_transitionFor {step : Step} {here : StepId} {given : String}
    (unrouted : step.transitionFor here given = .error (.reservedOutcome id outcome)) :
    id = here ∧ outcome = given ∧ given = fallbackOutcome := by
  unfold Step.transitionFor at unrouted
  split at unrouted
  · rename_i reserved
    cases unrouted
    exact ⟨rfl, rfl, reserved⟩
  split at unrouted
  · cases unrouted
  split at unrouted <;> cases unrouted

/-- An iteration fails over a reserved outcome when the executor of its step answers with the
fallback's own name. -/
theorem Engine.reserved_of_runStep
    (ran : engine.runStep session = (.error (.reservedOutcome id outcome), next)) :
    outcome = fallbackOutcome ∧ next.run.current = some id ∧
      ∃ order answer replied, engine.execute session order = (.ok answer, replied) ∧
        answer.outcome = fallbackOutcome ∧ next.dispatched = session.dispatched ++ [order] ∧
        next.workspace = replied.workspace := by
  cases Engine.iterates ran with
  | undispatched failed =>
    rcases Engine.undispatched_cases failed with impossible | impossible | ⟨_, _, _, impossible⟩
    · cases impossible
    · exact impossible.elim
    · cases impossible
  | unrouted dispatched replied failed =>
    obtain ⟨here, _, _, _, waiting, _, _, _, rfl⟩ := Engine.dispatch_eq_ok.mp dispatched
    have added := Engine.dispatched_of_execute replied
    rcases RunState.advance_eq_error failed with unrouted | ⟨_, _, unfollowed⟩
    · obtain ⟨rfl, rfl, reserved⟩ := Step.reserved_of_transitionFor unrouted
      exact ⟨reserved, waiting, _, _, _, replied, reserved, added, rfl⟩
    · cases Action.isStructural_of_interpret unfollowed

/-- The executors of a configuration that is accepted can be registered. Their answers have the
outcomes that commands mean or that agents write; and as none may be the fallback's own name, a
run with them ends over a reserved outcome only if an agent has written it into its file, though
its settings do not let it. So a run in which no agent does that never ends so. -/
theorem reserved_outcomes_come_from_agents {config : Config} (accepted : config.fault? = none)
    (launch : Launcher) :
    ∃ registry, Registry.ofConfig config = .ok registry ∧
      (∀ order workspace answer later,
        (registry.execute launch order).run workspace = (.ok answer, later) →
          config.CommandMeans order answer.outcome ∨
            config.AgentSays order later.files answer.outcome) ∧
      (∀ name settings, config.executors.get? name = some settings →
        fallbackOutcome ∉ settings.outcomes) ∧
      ∀ (engine : Engine Registry) (session : Session Registry) fuel asked id outcome final,
        engine.service = Registry.service launch → session.service = registry →
        engine.call fuel session asked = some (.error (.reservedOutcome id outcome), final) →
          outcome = fallbackOutcome ∧ final.run.current = some id ∧
            ∃ order, final.dispatched.getLast? = some order ∧
              config.AgentSays order final.workspace.files fallbackOutcome := by
  obtain ⟨registry, made⟩ := Registry.exists_ofConfig config
  refine ⟨registry, made, fun _ _ _ _ executed => Registry.outcome_of_execute made executed,
    fun _ _ configured => Config.fallback_not_mem accepted configured, ?_⟩
  intro engine session fuel asked id outcome final serves same called
  cases opens : engine.opening session asked with
  | error error =>
    rw [Engine.call_of_refused opens] at called
    cases called
    rcases Engine.opening_eq_error opens with impossible | impossible <;> cases impossible
  | ok begun =>
    rw [Engine.call_of_opening opens] at called
    have kept : begun.service = registry := by
      rw [Engine.restarted_of_opening opens]
      exact same
    obtain ⟨_, last, _, passes, stopped⟩ := Engine.drive_eq_some_iff.mp called
    have still : last.service = registry :=
      passes.keeps (P := fun session => session.service = registry)
        (fun _ _ before goes => (Engine.service_of_go serves goes).trans before) kept
    cases Engine.turn_eq_stop_iff.mp stopped with
    | failed _ _ _ ran =>
      obtain ⟨reserved, waiting, order, answer, _, replied, outcome, added, files⟩ :=
        Engine.reserved_of_runStep ran
      refine ⟨reserved, waiting, order, by rw [added, List.getLast?_concat], ?_⟩
      obtain ⟨executed, _⟩ := Engine.execute_eq_of_registry serves replied
      rw [still] at executed
      rw [files, ← outcome]
      rcases Registry.outcome_of_execute made executed with ⟨settings, configured, means⟩ | written
      · have allowed := Config.fallback_not_mem accepted configured
        exact absurd (outcome ▸ means) allowed
      · exact written

/-- A configuration with an agent, to which its default outcomes are given. -/
def agentConfig : Config :=
  { Config.default with executors := SortedMap.ofList [("tool", .agent AgentSettings.default)] }

/-- All programs write an answer with this outcome into the file in front of their last argument,
and exit well. -/
def answering (outcome : String) : Launcher := fun _ arguments _ files =>
  let content := Json.compact (.record [("outcome", .text outcome), ("summary", .text "done")])
  let path := (arguments.reverse[1]?).getD "answer"
  (.ok ⟨[], [], .exited 0, false⟩, (Disk.sound.write path content.toUTF8 files).2)

/-- An engine with that agent, which answers with the fallback's own name. -/
def agentEngine : Engine Registry where
  manifest := .small [("Main", [("A", .routing [⟨"SUCCESS", "RETURN"⟩])])]
  service := Registry.service (answering fallbackOutcome)
  sandbox := "/work"
  maxSteps := none
  snapshotFiles := []

/-- A session with its executors. -/
def agentSession : Session Registry :=
  Engine.newSession ((Registry.ofConfig agentConfig).toOption.getD .empty)
    ⟨.fresh ["work"], false⟩

/-- The session that its run leaves. -/
def agentEnd : Session Registry :=
  agentSession.after (agentEngine.call 5 agentSession (.run "run-1" "Main"))

private theorem agent_ends : agentEngine.call 5 agentSession (.run "run-1" "Main") =
    some (.error (.reservedOutcome ⟨"Main", "A"⟩ fallbackOutcome), agentEnd) :=
  Session.eq_some_after (by decide +kernel)

/-- Behind that error stands the agent, whose file gives the name. -/
theorem agent_writes_reserved_outcome :
    agentConfig.fault? = none ∧ ∃ order, agentEnd.dispatched.getLast? = some order ∧
      agentConfig.AgentSays order agentEnd.workspace.files fallbackOutcome := by
  have accepted : agentConfig.fault? = none := by decide
  obtain ⟨registry, made, _, _, ends⟩ :=
    reserved_outcomes_come_from_agents accepted (answering fallbackOutcome)
  have registered : agentSession.service = registry := by
    show (Registry.ofConfig agentConfig).toOption.getD .empty = registry
    rw [made]
    rfl
  obtain ⟨_, _, written⟩ := ends agentEngine agentSession _ _ _ _ _ rfl registered agent_ends
  exact ⟨accepted, written⟩

/-- The configuration is accepted, its agent may not answer with the fallback's own name, and a
run with its executors ends because it does. -/
theorem agent_breaks_its_settings :
    agentConfig.fault? = none ∧ Registry.ofConfig agentConfig = .ok agentSession.service ∧
      agentConfig.executors.get? "tool" = some (.agent AgentSettings.default) ∧
      fallbackOutcome ∉ AgentSettings.default.outcomes ∧
      agentEngine.call 5 agentSession (.run "run-1" "Main") =
        some (.error (.reservedOutcome ⟨"Main", "A"⟩ fallbackOutcome), agentEnd) :=
  ⟨by decide, rfl, by decide, by decide, agent_ends⟩

end StepGraph
