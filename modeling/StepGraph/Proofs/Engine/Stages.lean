import StepGraph.Proofs.Engine.Atomicity

/-! A run stage by stage. A stage is an engine with the session in which its loop stands;
the loop comes from one stage to the next by a turn that goes on, or by a call of `resume`
after a turn that stopped, in whatever engine that call is made. Between two stages either
an action has been followed, and then the log says which, or the place has stayed as it
was; and the history is the one that was there or the one of the answer just given. -/
namespace StepGraph

variable {σ : Type} {engine : Engine σ} {session next final : Session σ}
  {result : Except RunError Completion}

/-- A turn that stops leaves the run where it is: no position, no open call and no entry of
the log has changed. -/
theorem Engine.run_of_stop (stopped : engine.turn session = .stop result final) :
    final.run = session.run.answered final.run.payload := by
  cases Engine.turn_eq_stop_iff.mp stopped with
  | completed => rfl
  | paused => rfl
  | limited => rfl
  | failed _ _ _ ran => exact (Engine.spared_of_runStep ran).1.others

/-- An engine, and the session in which its loop stands. -/
structure Stage where
  {σ : Type}
  engine : Engine σ
  session : Session σ

namespace Stage

variable {stage later : Stage} {action : Action}

def manifest (stage : Stage) : Manifest := stage.engine.manifest

def run (stage : Stage) : RunState := stage.session.run

/-- The next step at a stage, and the order that is handed out for it. -/
def dispatch (stage : Stage) : Except RunError Dispatch :=
  stage.engine.dispatch stage.run stage.session.service stage.session.workspace.files

/-- What the executor answers in the turn at a stage. No answer is asked for when a pause
is requested or the limit is reached. -/
def answer? (stage : Stage) : Option ExecutorResult :=
  if stage.session.workspace.pauseRequested || (stage.engine.limitReached? stage.run).isSome then
    none
  else stage.engine.answer? stage.session

/-- One stage comes right after another in the same run. -/
inductive Follows : Stage → Stage → Prop
  | turn {σ : Type} {engine : Engine σ} {session next : Session σ}
      (turned : engine.turn session = .go next) : Follows ⟨engine, session⟩ ⟨engine, next⟩
  /-- The loop has stopped, and a call of `resume` takes up the state that it left. -/
  | resume {σ τ : Type} {engine : Engine σ} {session final : Session σ} {other : Engine τ}
      {begun : Session τ} {result : Except RunError Completion} {current : StepId}
      (stopped : engine.turn session = .stop result final)
      (same : other.manifest = engine.manifest) (kept : begun.run = final.run)
      (waiting : begun.run.current = some current) (names : other.manifest.validateNames = .ok ()) :
      Follows ⟨engine, session⟩ ⟨other, begun.restarted begun.run⟩

/-- The loop goes on from one stage to the next with an iteration that follows this action:
its text is what the iteration adds to the log. -/
inductive Executes : Stage → Action → Stage → Prop
  | turn {σ : Type} {engine : Engine σ} {session next : Session σ} {entry : LogEntry}
      {action : Action} (turned : engine.turn session = .go next)
      (logged : next.run.log = session.run.log ++ [entry])
      (read : Action.parse entry.action = .ok action) :
      Executes ⟨engine, session⟩ action ⟨engine, next⟩

/-- The stages of a run of the group, with all calls of `resume` on it, in which executors
give only answers of this kind. -/
inductive OfRun (manifest : Manifest) (group : String) (Given : ExecutorResult → Prop) :
    Stage → Prop
  | start {σ : Type} {engine : Engine σ} {session : Session σ} {runId : String} {entry : StepId}
      (same : engine.manifest = manifest) (begins : manifest.Begins group entry) :
      OfRun manifest group Given ⟨engine, session.restarted (.startingAt runId entry)⟩
  | next {stage later : Stage} (before : OfRun manifest group Given stage)
      (given : ∀ answer, stage.answer? = some answer → Given answer)
      (follows : stage.Follows later) : OfRun manifest group Given later

/-- The action that an iteration logs is the one that leads to the next place. -/
theorem Executes.reduces (executes : stage.Executes action later) :
    ∃ id, stage.run.current = some id ∧
      action.reduce stage.manifest id stage.run.stack = .ok later.run.place := by
  cases executes with
  | turn turned logged read =>
    obtain ⟨_, advanced, _, _, _, ran, rfl⟩ := Engine.turn_eq_go_iff.mp turned
    cases Engine.iterates ran with
    | advanced dispatched replied followed =>
      obtain ⟨id, step, _, _, waiting, _, _, _, rfl⟩ := Engine.dispatch_eq_ok.mp dispatched
      obtain ⟨transition, taken, place, _, again, reduced, rfl⟩ :=
        RunState.advance_eq_ok.mp followed
      cases List.append_cancel_left logged
      cases again.symm.trans read
      exact ⟨id, waiting, reduced⟩

/-- From a stage to the next an action is followed, or the place stays as it is. -/
theorem Follows.place (follows : stage.Follows later) :
    later.run.place = stage.run.place ∨ ∃ action, stage.Executes action later := by
  cases follows with
  | turn turned =>
    have goes := turned
    obtain ⟨_, advanced, _, _, _, ran, rfl⟩ := Engine.turn_eq_go_iff.mp turned
    cases Engine.iterates ran with
    | advanced dispatched replied followed =>
      obtain ⟨transition, action, place, _, read, _, rfl⟩ := RunState.advance_eq_ok.mp followed
      exact Or.inr ⟨action, .turn goes rfl read⟩
  | resume stopped _ kept =>
    have stayed := Engine.run_of_stop stopped
    refine Or.inl ?_
    simp only [run, Session.restarted, kept]
    rw [stayed]
    rfl

/-- The answer of an executor is that of the turn in which it is asked. -/
theorem answer?_of_execute {dispatch : Dispatch} {answer : ExecutorResult}
    (unasked : session.workspace.pauseRequested = false)
    (below : engine.limitReached? session.run = none)
    (dispatched :
      engine.dispatch session.run session.service session.workspace.files = .ok dispatch)
    (replied : engine.execute session dispatch.order = (.ok answer, next)) :
    (⟨engine, session⟩ : Stage).answer? = some answer := by
  have answered : engine.answer? session = some answer :=
    Engine.answer?_of_execute dispatched replied
  simpa [answer?, run, unasked, below] using answered

/-- From a stage to the next the history stays, or is replaced by that of the answer. -/
theorem Follows.payload (follows : stage.Follows later) :
    later.run.payload = stage.run.payload ∨
      ∃ answer, stage.answer? = some answer ∧ later.run.payload = answer.payload := by
  cases follows with
  | turn turned =>
    obtain ⟨_, advanced, _, unasked, below, ran, rfl⟩ := Engine.turn_eq_go_iff.mp turned
    cases Engine.iterates ran with
    | advanced dispatched replied followed =>
      obtain ⟨_, _, _, _, _, _, rfl⟩ := RunState.advance_eq_ok.mp followed
      exact Or.inr ⟨_, answer?_of_execute unasked below dispatched replied, rfl⟩
  | resume stopped _ kept =>
    simp only [run, Session.restarted, kept]
    cases Engine.turn_eq_stop_iff.mp stopped with
    | completed => exact Or.inl rfl
    | paused => exact Or.inl rfl
    | limited => exact Or.inl rfl
    | failed _ unasked below ran =>
      cases Engine.iterates ran with
      | undispatched => exact Or.inl rfl
      | unanswered => exact Or.inl rfl
      | unrouted dispatched replied _ =>
        exact Or.inr ⟨_, answer?_of_execute unasked below dispatched replied, rfl⟩

private theorem Follows.manifest_eq (follows : stage.Follows later) :
    later.manifest = stage.manifest := by
  cases follows with
  | turn => rfl
  | resume _ same => exact same

theorem Follows.maintains {P : RunState → Prop} (maintains : stage.manifest.Maintains P)
    (follows : stage.Follows later) (holds : P stage.run) : P later.run := by
  cases follows with
  | turn turned =>
    obtain ⟨_, advanced, _, _, _, ran, rfl⟩ := Engine.turn_eq_go_iff.mp turned
    have kept : P advanced.run := maintains rfl holds ran
    exact kept
  | resume stopped _ kept =>
    simp only [run, Session.restarted, kept]
    cases Engine.turn_eq_stop_iff.mp stopped with
    | completed => exact holds
    | paused => exact holds
    | limited => exact holds
    | failed _ _ _ ran => exact maintains rfl holds ran

/-- A run keeps its manifest. -/
theorem OfRun.manifest_eq {manifest : Manifest} {group : String} {Given : ExecutorResult → Prop}
    (ofRun : stage.OfRun manifest group Given) : stage.manifest = manifest := by
  induction ofRun with
  | start same => exact same
  | next _ _ follows ih => exact follows.manifest_eq.trans ih

/-- A run has begun at a step of its group. -/
theorem OfRun.begins {manifest : Manifest} {group : String} {Given : ExecutorResult → Prop}
    (ofRun : stage.OfRun manifest group Given) : ∃ entry, manifest.Begins group entry := by
  induction ofRun with
  | start _ begins => exact ⟨_, begins⟩
  | next _ _ _ ih => exact ih

/-- An invariant of iterations that holds at the start of a run holds at all of its stages,
whatever its executors answer. -/
theorem OfRun.invariant {manifest : Manifest} {group : String} {Given : ExecutorResult → Prop}
    {P : RunState → Prop} (ofRun : stage.OfRun manifest group Given)
    (start : ∀ runId entry, manifest.Begins group entry → P (.startingAt runId entry))
    (maintains : manifest.Maintains P) : P stage.run := by
  induction ofRun with
  | start same begins => exact start _ _ begins
  | next before _ follows ih =>
    exact follows.maintains (before.manifest_eq ▸ maintains) ih

/-- The ids in the state of a run all read back, at every stage. -/
theorem OfRun.legible {manifest : Manifest} {group : String} {Given : ExecutorResult → Prop}
    (ofRun : stage.OfRun manifest group Given) : stage.run.Legible :=
  ofRun.invariant
    (fun _ _ begins => RunState.legible_startingAt (Manifest.readsBack_of_entryOf begins.entry))
    (maintains_legible manifest)

/-- The stage that a turn leads to, or the one in which it stops. -/
def turned (stage : Stage) : Stage :=
  ⟨stage.engine, match stage.engine.turn stage.session with
    | .stop _ session => session
    | .go session => session⟩

/-- The loop goes on at a stage. -/
def Goes (stage : Stage) : Prop :=
  ∃ next, stage.engine.turn stage.session = .go next

instance : Decidable stage.Goes :=
  match turned : stage.engine.turn stage.session with
  | .go next => isTrue ⟨next, turned⟩
  | .stop _ _ => isFalse fun ⟨_, goes⟩ => nomatch turned.symm.trans goes

theorem Goes.turn (goes : stage.Goes) :
    stage.engine.turn stage.session = .go stage.turned.session := by
  obtain ⟨next, turned⟩ := goes
  simp only [Stage.turned, turned]

theorem Goes.follows (goes : stage.Goes) : stage.Follows stage.turned :=
  .turn goes.turn

/-- The action that is followed is that of the transition that is kept as the last one. -/
theorem Executes.of_lastTransition (turned : engine.turn session = .go next)
    (read : (next.run.lastTransition.map fun record => Action.parse record.action) =
      some (.ok action)) : Executes ⟨engine, session⟩ action ⟨engine, next⟩ := by
  have goes := turned
  obtain ⟨_, later, _, _, _, ran, rfl⟩ := Engine.turn_eq_go_iff.mp turned
  cases Engine.iterates ran with
  | advanced dispatched replied followed =>
    obtain ⟨transition, taken, place, _, _, _, rfl⟩ := RunState.advance_eq_ok.mp followed
    exact .turn goes rfl (Option.some.inj read)

theorem Goes.executes (goes : stage.Goes)
    (read : (stage.turned.run.lastTransition.map fun record => Action.parse record.action) =
      some (.ok action)) : stage.Executes action stage.turned :=
  .of_lastTransition goes.turn read

end Stage
end StepGraph
