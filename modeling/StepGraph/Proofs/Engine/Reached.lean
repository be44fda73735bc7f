import StepGraph.Proofs.Engine.Stages

/-! What a turn leaves, and where a run comes through turns of one kind. Every state of a run
is the one it began with or one that a turn has left, so that a property of runs comes down
to a property of turns. The kind says what is known of the turns that have been taken: which
executors answered in them, how many there may be, or that their outcomes were followed. -/
namespace StepGraph.Stage

variable {σ : Type} {engine : Engine σ} {session next final : Session σ}
  {result : Except RunError Completion} {stage later : Stage}

/-- The result with which the loop stops at a stage, unless it goes on. -/
def result? (stage : Stage) : Option (Except RunError Completion) :=
  match stage.engine.turn stage.session with
  | .stop result _ => some result
  | .go _ => none

theorem turned_of_stop (stopped : engine.turn session = .stop result final) :
    (⟨engine, session⟩ : Stage).turned = ⟨engine, final⟩ := by
  simp only [turned, stopped]

theorem turned_of_go (goes : engine.turn session = .go next) :
    (⟨engine, session⟩ : Stage).turned = ⟨engine, next⟩ := by
  simp only [turned, goes]

theorem result?_of_stop (stopped : engine.turn session = .stop result final) :
    (⟨engine, session⟩ : Stage).result? = some result := by
  simp only [result?, stopped]

theorem result?_of_go (goes : engine.turn session = .go next) :
    (⟨engine, session⟩ : Stage).result? = none := by
  simp only [result?, goes]

/-- The next stage begins with the state that the turn has left. -/
theorem Follows.run_eq (follows : stage.Follows later) : later.run = stage.turned.run := by
  cases follows with
  | turn goes =>
    rw [turned_of_go goes]
  | resume stopped _ kept =>
    rw [turned_of_stop stopped]
    exact kept

/-- A turn keeps what iterations keep, whether the loop goes on or stops. -/
theorem maintains_turned {P : RunState → Prop} (maintains : stage.manifest.Maintains P)
    (holds : P stage.run) : P stage.turned.run := by
  obtain ⟨engine, session⟩ := stage
  cases turn : engine.turn session with
  | go next =>
    rw [turned_of_go turn]
    exact (Follows.turn turn).maintains maintains holds
  | stop result final =>
    rw [turned_of_stop turn]
    cases Engine.turn_eq_stop_iff.mp turn with
    | completed => exact holds
    | paused => exact holds
    | limited => exact holds
    | failed _ _ _ ran => exact maintains rfl holds ran

/-- Without an answer the state stays as it is; an answer replaces the history. -/
theorem turned_run (stage : Stage) :
    (stage.answer? = none ∧ stage.turned.run = stage.run) ∨
      ∃ answer, stage.answer? = some answer ∧ stage.turned.run.payload = answer.payload := by
  obtain ⟨engine, session⟩ := stage
  cases turn : engine.turn session with
  | go next =>
    rw [turned_of_go turn]
    obtain ⟨_, advanced, _, unasked, below, ran, rfl⟩ := Engine.turn_eq_go_iff.mp turn
    cases Engine.iterates ran with
    | advanced dispatched replied followed =>
      obtain ⟨_, _, _, _, _, _, rfl⟩ := RunState.advance_eq_ok.mp followed
      exact Or.inr ⟨_, answer?_of_execute unasked below dispatched replied, rfl⟩
  | stop result final =>
    rw [turned_of_stop turn]
    cases Engine.turn_eq_stop_iff.mp turn with
    | completed ended =>
      have unhanded : engine.dispatch session.run session.service session.workspace.files =
          .error .nothingToResume := by
        simp only [Engine.dispatch, ended]
      have unanswered := Engine.answer?_of_undispatched unhanded
      exact Or.inl ⟨by simp [answer?, unanswered], rfl⟩
    | paused _ requested => exact Or.inl ⟨by simp [answer?, requested], rfl⟩
    | limited _ _ reached => exact Or.inl ⟨by simp [answer?, run, reached], rfl⟩
    | failed _ unasked below ran =>
      cases Engine.iterates ran with
      | undispatched failed =>
        have unanswered := Engine.answer?_of_undispatched failed
        exact Or.inl ⟨by simp [answer?, unanswered], rfl⟩
      | unanswered dispatched failed =>
        have unanswered : engine.answer? session = none :=
          Engine.answer?_of_execute dispatched failed
        exact Or.inl ⟨by simp [answer?, unanswered], rfl⟩
      | unrouted dispatched replied _ =>
        exact Or.inr ⟨_, answer?_of_execute unasked below dispatched replied, rfl⟩

theorem turned_run_of_unanswered (unanswered : stage.answer? = none) :
    stage.turned.run = stage.run := by
  rcases stage.turned_run with ⟨_, kept⟩ | ⟨answer, answered, _⟩
  · exact kept
  · cases unanswered.symm.trans answered

theorem turned_payload_of_answer {answer : ExecutorResult}
    (answered : stage.answer? = some answer) : stage.turned.run.payload = answer.payload := by
  rcases stage.turned_run with ⟨unanswered, _⟩ | ⟨other, again, replaced⟩
  · cases unanswered.symm.trans answered
  · cases answered.symm.trans again
    exact replaced

/-- A turn adds at most one entry to the log, which holds the history that it leaves. -/
theorem turned_log (stage : Stage) :
    stage.turned.run.log = stage.run.log ∨
      ∃ logged, stage.turned.run.log = stage.run.log ++ [logged] ∧
        logged.output = stage.turned.run.payload := by
  obtain ⟨engine, session⟩ := stage
  cases turn : engine.turn session with
  | stop result final =>
    rw [turned_of_stop turn]
    have kept := congrArg RunState.log (Engine.run_of_stop turn)
    exact Or.inl kept
  | go next =>
    rw [turned_of_go turn]
    obtain ⟨_, advanced, _, _, _, ran, rfl⟩ := Engine.turn_eq_go_iff.mp turn
    cases Engine.iterates ran with
    | advanced _ _ followed =>
      obtain ⟨_, _, _, _, _, _, rfl⟩ := RunState.advance_eq_ok.mp followed
      exact Or.inr ⟨_, rfl, rfl⟩

/-- A turn that goes on counts one iteration, and the limit has left room for it. -/
theorem counts_of_go (goes : engine.turn session = .go next) :
    next.run.iterations = session.run.iterations + 1 ∧
      engine.limitReached? session.run = none := by
  obtain ⟨_, _, _, _, below, ran, rfl⟩ := Engine.turn_eq_go_iff.mp goes
  cases Engine.iterates ran with
  | advanced _ _ followed =>
    obtain ⟨_, _, _, _, _, _, rfl⟩ := RunState.advance_eq_ok.mp followed
    exact ⟨rfl, below⟩

theorem Goes.counts (goes : stage.Goes) :
    stage.turned.run.iterations = stage.run.iterations + 1 ∧
      stage.engine.limitReached? stage.run = none :=
  counts_of_go goes.turn

/-- A turn that stops counts none. -/
theorem iterations_of_not_goes (stops : ¬ stage.Goes) :
    stage.turned.run.iterations = stage.run.iterations := by
  obtain ⟨engine, session⟩ := stage
  cases turn : engine.turn session with
  | go next => exact absurd ⟨next, turn⟩ stops
  | stop result final =>
    rw [turned_of_stop turn]
    have kept := congrArg RunState.iterations (Engine.run_of_stop turn)
    exact kept

/-- The next stage of a run when `resume` is called as soon as the loop stops. -/
def onward (stage : Stage) : Stage :=
  ⟨stage.engine, match stage.engine.turn stage.session with
    | .go next => next
    | .stop _ final => final.restarted final.run⟩

/-- A run that is not over goes onward. -/
theorem follows_onward (waiting : stage.run.current.isSome)
    (names : stage.manifest.validateNames = .ok ()) : stage.Follows stage.onward := by
  obtain ⟨engine, session⟩ := stage
  obtain ⟨current, waiting⟩ := Option.isSome_iff_exists.mp waiting
  unfold onward
  cases turn : engine.turn session with
  | go next => exact .turn turn
  | stop result final =>
    have kept := congrArg RunState.current (Engine.run_of_stop turn)
    exact .resume turn rfl rfl (kept.trans waiting) names

/-- The stages of a run of the group, with all calls of `resume` on it, to which only stages
of this kind have led. -/
inductive Reached (manifest : Manifest) (group : String) (Kind : Stage → Prop) : Stage → Prop
  | start {σ : Type} {engine : Engine σ} {session : Session σ} {runId : String} {entry : StepId}
      (same : engine.manifest = manifest) (begins : manifest.Begins group entry) :
      Reached manifest group Kind ⟨engine, session.restarted (.startingAt runId entry)⟩
  | next {stage later : Stage} (before : Reached manifest group Kind stage) (kind : Kind stage)
      (follows : stage.Follows later) : Reached manifest group Kind later

variable {manifest : Manifest} {group : String} {Kind : Stage → Prop}

theorem Reached.ofRun (reached : stage.Reached manifest group Kind) :
    stage.OfRun manifest group fun _ => True := by
  induction reached with
  | start same begins => exact .start same begins
  | next _ _ follows ih => exact .next ih (fun _ _ => trivial) follows

/-- What holds at the beginning of a run and is kept by the turns of one kind holds wherever
those turns lead. -/
theorem Reached.keeps {P : RunState → Prop} (reached : stage.Reached manifest group Kind)
    (start : ∀ runId entry, manifest.Begins group entry → P (.startingAt runId entry))
    (keeps : ∀ stage, Kind stage → P stage.run → P stage.turned.run) : P stage.run := by
  induction reached with
  | start _ begins => exact start _ _ begins
  | next _ kind follows ih => exact follows.run_eq ▸ keeps _ kind ih

end StepGraph.Stage
