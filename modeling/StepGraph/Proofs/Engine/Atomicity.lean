import StepGraph.Proofs.Engine.Orders
import StepGraph.Proofs.Engine.Safety
import StepGraph.Proofs.RunState.Store

/-! What a failed iteration leaves behind. The position, the open calls, the log and
all that is read off it stay as they were; the history alone is replaced, and only
when the executor has answered. A run that is stored after an error and resumed
therefore hands the failing step out again, from the place it had. -/
namespace StepGraph

variable {σ : Type} {engine : Engine σ} {session final : Session σ} {error : RunError}

/-- The answer that an iteration gets, if an order can be handed out and the executor
does not fail. -/
def Engine.answer? (engine : Engine σ) (session : Session σ) : Option ExecutorResult :=
  match engine.dispatch session.run session.service session.workspace.files with
  | .error _ => none
  | .ok dispatch => (engine.execute session dispatch.order).1.toOption

/-- What a failed iteration that got this answer leaves of the state before it. -/
structure RunState.Spared (answer : Option ExecutorResult) (before after : RunState) : Prop where
  /-- All but the history stays. -/
  others : after = before.answered after.payload
  /-- Without an answer the history stays too. -/
  unanswered : answer = none → after = before
  /-- The history of an answer is kept before its outcome is looked up. -/
  answered : ∀ given, answer = some given → given.outcome ≠ fallbackOutcome →
    after.payload = given.payload

/-- Errors that come before there is an answer: nothing is next, an artifact cannot be
read, or the executor fails. -/
def RunError.PrecedesAnswer : RunError → Prop
  | .nothingToResume => True
  | .artifactFailed .. => True
  | .executorFailed .. => True
  | _ => False

theorem Engine.answer?_of_undispatched
    (failed : engine.dispatch session.run session.service session.workspace.files = .error error) :
    engine.answer? session = none := by
  simp only [Engine.answer?, failed]

theorem Engine.answer?_of_execute {dispatch : Dispatch} {reply : Except Failure ExecutorResult}
    {later : Session σ}
    (dispatched :
      engine.dispatch session.run session.service session.workspace.files = .ok dispatch)
    (executed : engine.execute session dispatch.order = (reply, later)) :
    engine.answer? session = reply.toOption := by
  simp only [Engine.answer?, dispatched, executed]

/-- An outcome that cannot be followed fails with an error that takes an answer. -/
theorem RunState.not_precedesAnswer_of_advance {state : RunState} {manifest : Manifest}
    {dispatch : Dispatch} {outcome : String}
    (failed : state.advance manifest dispatch outcome = .error error) : ¬ error.PrecedesAnswer := by
  rcases RunState.advance_eq_error failed with unrouted | ⟨transition, _, unfollowed⟩
  · rcases Step.transitionFor_eq_error unrouted with rfl | ⟨rfl, _⟩
    · exact id
    · exact id
  · have structural := Action.isStructural_of_interpret unfollowed
    cases error with
    | nothingToResume => cases structural
    | artifactFailed => cases structural
    | executorFailed => cases structural
    | _ => exact id

/-- A failed iteration changes nothing but the history, and that only as its answer
says. -/
theorem Engine.spared_of_runStep (failed : engine.runStep session = (.error error, final)) :
    session.run.Spared (engine.answer? session) final.run ∧
      (error.PrecedesAnswer → engine.answer? session = none) := by
  cases Engine.iterates failed with
  | undispatched undispatched =>
    have unanswered := Engine.answer?_of_undispatched undispatched
    refine ⟨⟨rfl, fun _ => rfl, ?_⟩, fun _ => unanswered⟩
    rw [unanswered]
    nofun
  | unanswered dispatched unanswered =>
    have none := Engine.answer?_of_execute dispatched unanswered
    refine ⟨⟨rfl, fun _ => rfl, ?_⟩, fun _ => none⟩
    rw [none]
    nofun
  | unrouted dispatched replied unrouted =>
    have answered := Engine.answer?_of_execute dispatched replied
    refine ⟨⟨rfl, ?_, ?_⟩, fun precedes => ?_⟩
    · rw [answered]
      nofun
    · rw [answered]
      rintro _ ⟨⟩ _
      rfl
    · exact absurd precedes (RunState.not_precedesAnswer_of_advance unrouted)

/-- Errors end an iteration without a trace but in the history, where the answer of the
executor has replaced it. The state that is left can be stored and loaded again, and a
call of `resume` on it begins with an order for the step that failed, made from that
state. -/
theorem failed_iteration_keeps_place (failed : engine.runStep session = (.error error, final)) :
    session.run.Spared (engine.answer? session) final.run ∧
      (error.PrecedesAnswer → final.run = session.run) ∧
      (session.run.Held → ∀ path workspace stored,
        (final.run.store path).run workspace = (.ok (), stored) →
          RunState.load stored.files path = .ok final.run) ∧
      ∀ fuel retried last result, engine.manifest.validateNames = .ok () →
        retried.run = final.run → engine.resume fuel retried = some (result, last) →
          retried.run.current = session.run.current ∧
            ∃ orders, engine.HandsOut (retried.restarted final.run) orders last := by
  obtain ⟨spared, unanswered⟩ := Engine.spared_of_runStep failed
  refine ⟨spared, fun precedes => spared.unanswered (unanswered precedes), ?_, ?_⟩
  · intro held path workspace stored wrote
    have kept : final.run.Held := spared.others ▸ held.answered final.run.payload
    exact RunState.load_of_store kept wrote
  · intro fuel retried last result names same called
    refine ⟨?_, same ▸ Engine.handsOut_of_resume called names⟩
    rw [same, spared.others]
    rfl

/-- An engine whose only step knows the outcome `DONE` alone. -/
def stuckEngine : Engine Replies :=
  ⟨.small [("Main", [("A", .routing [⟨"DONE", "RETURN"⟩])])], Replies.service, "/work", none, []⟩

/-- A run of it that is about to be answered with another outcome and a message, and with
that outcome only when it asks again. -/
def stuckSession : Session Replies where
  service := ⟨[⟨false, none, .append [⟨"m1", Kind.message, "half done"⟩], "STUCK"⟩,
    ⟨false, none, .append [], "DONE"⟩], []⟩
  workspace := ⟨.fresh ["work"], false⟩
  run := .startingAt "run-1" ⟨"Main", "A"⟩
  dispatched := []
  published := []

/-- The error that ends this run. -/
def stuckError : RunError := .noTransition ⟨"Main", "A"⟩ "STUCK"

/-- The session that the error leaves. -/
def stuckEnd : Session Replies := (stuckEngine.runStep stuckSession).2

/-- The workspace when its state has been stored. -/
def stuckStored : Workspace := ((stuckEnd.run.store "/work/run.json").run stuckEnd.workspace).2

private theorem stuckEngine_stops :
    stuckEngine.runStep stuckSession = (.error stuckError, stuckEnd) :=
  Prod.ext (by decide) rfl

/-- The run keeps its place, can be stored and loaded, and gets on when it is resumed
there. -/
theorem stuck_run_keeps_place :
    stuckSession.run.Spared (stuckEngine.answer? stuckSession) stuckEnd.run ∧
      (stuckEnd.run.store "/work/run.json").run stuckEnd.workspace = (.ok (), stuckStored) ∧
        RunState.load stuckStored.files "/work/run.json" = .ok stuckEnd.run ∧
          ∃ last orders, stuckEngine.resume 5 stuckEnd = some (.ok (.completed 1), last) ∧
            stuckEngine.HandsOut (stuckEnd.restarted stuckEnd.run) orders last := by
  obtain ⟨spared, _, loaded, retried⟩ := failed_iteration_keeps_place stuckEngine_stops
  have held : stuckSession.run.Held :=
    (RunState.legible_startingAt (by decide)).held (by decide)
  have written : (stuckEnd.run.store "/work/run.json").run stuckEnd.workspace =
      (.ok (), stuckStored) := Prod.ext (by decide) rfl
  have resumed : stuckEngine.resume 5 stuckEnd =
      some (.ok (.completed 1), stuckEnd.after (stuckEngine.resume 5 stuckEnd)) :=
    Session.eq_some_after (by decide)
  obtain ⟨_, orders, handsOut⟩ := retried 5 stuckEnd _ _ (by decide) rfl resumed
  exact ⟨spared, written, loaded held _ _ _ written, _, orders, resumed, handsOut⟩

/-- The history is not kept: the message of the step that failed has taken its place. -/
theorem stuck_run_replaces_history :
    (stuckEngine.runStep stuckSession).1 = .error stuckError ∧
      (stuckEngine.runStep stuckSession).2.run.payload ≠ stuckSession.run.payload := by
  decide

end StepGraph
