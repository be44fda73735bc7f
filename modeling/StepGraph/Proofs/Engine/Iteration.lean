import StepGraph.Engine.Run
import StepGraph.Proofs.CallStack
import StepGraph.Proofs.Context

/-! What an iteration does. `Iterates` lists the four ways in which it can go, with
everything that changes in each of them; whatever is proved of runs is proved of
these cases and then carried along `drive`. -/
namespace StepGraph

variable {σ : Type} {engine : Engine σ} {session : Session σ} {state : RunState}
  {dispatch : Dispatch} {outcome sandbox : String} {files : FileSystem}

/-- Where a run stands: the step that is next, and the calls that are open. -/
def RunState.place (state : RunState) : Continuation := ⟨state.current, state.stack⟩

theorem Step.readArtifacts_eq_error {step : Step} {id : StepId} {error : RunError}
    (failed : step.readArtifacts id sandbox files = .error error) :
    ∃ path ∈ step.artifacts, ∃ failure, files.readArtifact sandbox path = .error failure ∧
      error = .artifactFailed id path failure := by
  unfold Step.readArtifacts at failed
  generalize step.artifacts = paths at failed ⊢
  induction paths with
  | nil => cases failed
  | cons path rest ih =>
    rw [List.mapM_cons] at failed
    rcases bind_eq_error.mp failed with unread | ⟨_, _, failed⟩
    · obtain ⟨failure, unread, same⟩ := mapError_eq_error.mp unread
      exact ⟨path, List.mem_cons_self, failure, unread, same.symm⟩
    · rcases bind_eq_error.mp failed with later | ⟨_, _, impossible⟩
      · obtain ⟨place, member, found⟩ := ih later
        exact ⟨place, List.mem_cons_of_mem _ member, found⟩
      · cases impossible

/-- Every path of a step has its artifact. -/
theorem Step.readArtifact_of_mem {step : Step} {id : StepId} {artifacts : List Artifact}
    (read : step.readArtifacts id sandbox files = .ok artifacts) {path : String}
    (member : path ∈ step.artifacts) :
    ∃ artifact ∈ artifacts, files.readArtifact sandbox path = .ok artifact := by
  unfold Step.readArtifacts at read
  generalize step.artifacts = paths at read member
  induction paths generalizing artifacts with
  | nil => cases member
  | cons first rest ih =>
    rw [List.mapM_cons] at read
    obtain ⟨artifact, held, read⟩ := bind_eq_ok.mp read
    obtain ⟨others, behind, same⟩ := bind_eq_ok.mp read
    cases same
    rcases List.mem_cons.mp member with rfl | later
    · exact ⟨artifact, List.mem_cons_self, mapError_eq_ok.mp held⟩
    · obtain ⟨found, among, held⟩ := ih behind later
      exact ⟨found, List.mem_cons_of_mem _ among, held⟩

/-- What a step is told before it runs. -/
def Engine.situation (engine : Engine σ) (state : RunState) (service : σ) (id : StepId)
    (step : Step) (artifacts : List Artifact) : Situation where
  id := id
  payload := state.payload
  stack := state.stack
  profile := engine.service.profile? service step.executor
  artifacts := artifacts
  facts := ⟨state.runId, engine.sandbox, state.iterations + 1⟩

/-- An order is handed out for the current step, which is declared, with the
context that its artifacts and the state of the run make up. -/
theorem Engine.dispatch_eq_ok {service : σ} {files : FileSystem} :
    engine.dispatch state service files = .ok dispatch ↔
      ∃ id step artifacts context, state.current = some id ∧ engine.manifest.step id = .ok step ∧
        step.readArtifacts id engine.sandbox files = .ok artifacts ∧
        engine.manifest.context (engine.situation state service id step artifacts) = .ok context ∧
        dispatch = ⟨id, step, ⟨step.executor, context, engine.sandbox⟩⟩ := by
  unfold Engine.dispatch
  cases current : state.current with
  | none => simp
  | some id =>
    simp only [bind_eq_ok, Option.some.injEq]
    constructor
    · rintro ⟨step, found, artifacts, read, context, built, same⟩
      cases same
      exact ⟨id, step, artifacts, context, rfl, found, read, built, rfl⟩
    · rintro ⟨_, step, artifacts, context, rfl, found, read, built, rfl⟩
      exact ⟨step, found, artifacts, read, context, built, rfl⟩

/-- Nothing is handed out if no step is next, the step is not declared, one of its
artifacts cannot be read, or its context cannot be put together. -/
theorem Engine.dispatch_eq_error {service : σ} {files : FileSystem} {error : RunError}
    (failed : engine.dispatch state service files = .error error) :
    (state.current = none ∧ error = .nothingToResume) ∨
      ∃ id, state.current = some id ∧
        (engine.manifest.step id = .error error ∨
          (∃ step, engine.manifest.step id = .ok step ∧
            step.readArtifacts id engine.sandbox files = .error error) ∨
          ∃ step artifacts, engine.manifest.step id = .ok step ∧
            engine.manifest.context (engine.situation state service id step artifacts) =
              .error error) := by
  unfold Engine.dispatch at failed
  cases current : state.current with
  | none =>
    rw [current] at failed
    cases failed
    exact Or.inl ⟨rfl, rfl⟩
  | some id =>
    rw [current] at failed
    refine Or.inr ⟨id, rfl, ?_⟩
    rcases bind_eq_error.mp failed with missing | ⟨step, found, failed⟩
    · exact Or.inl missing
    rcases bind_eq_error.mp failed with unread | ⟨artifacts, _, failed⟩
    · exact Or.inr (Or.inl ⟨step, found, unread⟩)
    rcases bind_eq_error.mp failed with unbuilt | ⟨_, _, impossible⟩
    · exact Or.inr (Or.inr ⟨step, artifacts, found, unbuilt⟩)
    · cases impossible

/-- What an order may fail with that cannot be made: no step is next, something is not
declared, or an artifact cannot be read. -/
theorem Engine.undispatched_cases {service : σ} {files : FileSystem} {error : RunError}
    (failed : engine.dispatch state service files = .error error) :
    error = .nothingToResume ∨ error.Undeclared ∨
      ∃ id path failure, error = .artifactFailed id path failure := by
  rcases Engine.dispatch_eq_error failed with ⟨_, rfl⟩ | ⟨id, _, missing | unread | unbuilt⟩
  · exact Or.inl rfl
  · exact Or.inr (Or.inl (Manifest.undeclared_of_step missing))
  · obtain ⟨_, _, unread⟩ := unread
    obtain ⟨path, _, failure, _, rfl⟩ := Step.readArtifacts_eq_error unread
    exact Or.inr (Or.inr ⟨id, path, failure, rfl⟩)
  · obtain ⟨_, _, _, unbuilt⟩ := unbuilt
    exact Or.inr (Or.inl (Manifest.undeclared_of_context unbuilt))

/-- The state after an iteration that followed a transition to a place. -/
def RunState.advanced (state : RunState) (dispatch : Dispatch) (outcome : String)
    (transition : Transition) (place : Continuation) : RunState where
  runId := state.runId
  current := place.next
  payload := state.payload
  stack := place.stack
  completed := state.completed ++ [dispatch.id]
  lastTransition := some ⟨dispatch.id, outcome, transition.onOutcome, transition.action, place.next⟩
  iterations := state.iterations + 1
  log := state.log ++ [⟨state.iterations + 1, dispatch.id, dispatch.step.executor,
    dispatch.order.context, state.payload, outcome, transition.action⟩]

/-- Following an outcome takes the transition of the outcome, and leads where its
action leads from the current place. -/
theorem RunState.advance_eq_ok {manifest : Manifest} {after : RunState} :
    state.advance manifest dispatch outcome = .ok after ↔
      ∃ transition action place, dispatch.step.transitionFor dispatch.id outcome = .ok transition ∧
        Action.parse transition.action = .ok action ∧
        action.reduce manifest dispatch.id state.stack = .ok place ∧
        after = state.advanced dispatch outcome transition place := by
  simp only [RunState.advance, bind_eq_ok, Prod.exists]
  constructor
  · rintro ⟨transition, routed, action, place, followed, same⟩
    obtain ⟨read, reduced⟩ := Action.interpret_eq_ok.mp followed
    cases same
    exact ⟨transition, action, place, routed, read, reduced, rfl⟩
  · rintro ⟨transition, action, place, routed, read, reduced, rfl⟩
    exact ⟨transition, routed, action, place, Action.interpret_eq_ok.mpr ⟨read, reduced⟩, rfl⟩

theorem RunState.advance_eq_error {manifest : Manifest} {error : RunError}
    (failed : state.advance manifest dispatch outcome = .error error) :
    dispatch.step.transitionFor dispatch.id outcome = .error error ∨
      ∃ transition, dispatch.step.transitionFor dispatch.id outcome = .ok transition ∧
        Action.interpret manifest dispatch.id state.stack transition.action = .error error := by
  simp only [RunState.advance] at failed
  rcases bind_eq_error.mp failed with unrouted | ⟨transition, routed, failed⟩
  · exact Or.inl unrouted
  · rcases bind_eq_error.mp failed with unfollowed | ⟨_, _, impossible⟩
    · exact Or.inr ⟨transition, routed, unfollowed⟩
    · cases impossible

/-- The state when an executor has answered with a new history. -/
def RunState.answered (state : RunState) (payload : Payload) : RunState := { state with payload }

/-- How an iteration can go, and the session after it. -/
inductive Engine.Iterates (engine : Engine σ) (session : Session σ) :
    Except RunError Unit → Session σ → Prop
  /-- No order can be handed out. -/
  | undispatched {error : RunError}
      (failed :
        engine.dispatch session.run session.service session.workspace.files = .error error) :
      Engine.Iterates engine session (.error error) session
  /-- The executor fails. -/
  | unanswered {dispatch : Dispatch} {failure : Failure} {later : Session σ}
      (dispatched :
        engine.dispatch session.run session.service session.workspace.files = .ok dispatch)
      (failed : engine.execute session dispatch.order = (.error failure, later)) :
      Engine.Iterates engine session
        (.error (.executorFailed dispatch.id dispatch.step.executor failure))
        { later with run := session.run }
  /-- The executor answers, but its outcome cannot be followed. -/
  | unrouted {dispatch : Dispatch} {answer : ExecutorResult} {later : Session σ} {error : RunError}
      (dispatched :
        engine.dispatch session.run session.service session.workspace.files = .ok dispatch)
      (replied : engine.execute session dispatch.order = (.ok answer, later))
      (failed : (session.run.answered answer.payload).advance engine.manifest dispatch
        answer.outcome = .error error) :
      Engine.Iterates engine session (.error error)
        { later with run := session.run.answered answer.payload }
  /-- The outcome is followed. -/
  | advanced {dispatch : Dispatch} {answer : ExecutorResult} {later : Session σ} {after : RunState}
      (dispatched :
        engine.dispatch session.run session.service session.workspace.files = .ok dispatch)
      (replied : engine.execute session dispatch.order = (.ok answer, later))
      (followed : (session.run.answered answer.payload).advance engine.manifest dispatch
        answer.outcome = .ok after) :
      Engine.Iterates engine session (.ok ()) { later with run := after }

private theorem Engine.run_of_execute {order : WorkOrder} {reply : Except Failure ExecutorResult}
    {later : Session σ} (executed : engine.execute session order = (reply, later)) :
    later.run = session.run :=
  congrArg (·.2.run) executed.symm

theorem Engine.dispatched_of_execute {order : WorkOrder} {reply : Except Failure ExecutorResult}
    {later : Session σ} (executed : engine.execute session order = (reply, later)) :
    later.dispatched = session.dispatched ++ [order] :=
  congrArg (·.2.dispatched) executed.symm

theorem Engine.iterates {result : Except RunError Unit} {after : Session σ}
    (ran : engine.runStep session = (result, after)) : engine.Iterates session result after := by
  unfold Engine.runStep at ran
  split at ran
  · rename_i error failed
    cases ran
    exact .undispatched failed
  · rename_i dispatch dispatched
    split at ran
    · rename_i failure later failed
      cases ran
      have unanswered := Engine.Iterates.unanswered dispatched failed
      rwa [← Engine.run_of_execute failed] at unanswered
    · rename_i answer later replied
      simp only [Engine.run_of_execute replied] at ran
      split at ran
      · rename_i error failed
        cases ran
        exact .unrouted dispatched replied failed
      · rename_i advanced followed
        cases ran
        exact .advanced dispatched replied followed

/-- Whatever way an iteration can go, it goes. -/
theorem Engine.Iterates.runStep {result : Except RunError Unit} {after : Session σ}
    (iterates : engine.Iterates session result after) :
    engine.runStep session = (result, after) := by
  unfold Engine.runStep
  cases iterates with
  | undispatched failed => rw [failed]
  | unanswered dispatched failed =>
    simp only [dispatched, failed]
    rw [← Engine.run_of_execute failed]
  | unrouted dispatched replied failed =>
    unfold RunState.answered at failed ⊢
    simp only [dispatched, replied, Engine.run_of_execute replied, failed]
  | advanced dispatched replied followed =>
    unfold RunState.answered at followed
    simp only [dispatched, replied, Engine.run_of_execute replied, followed]

end StepGraph
