import Mathlib.Data.List.Chain
import StepGraph.Proofs.Engine.Orders
import StepGraph.Proofs.Engine.Reached
import StepGraph.Proofs.Engine.Sequence

/-! What a call publishes and hands out. A turn that goes on shows one snapshot and hands out
one order. The turn that stops shows one more if the run is over or pauses, and none if it
fails. Sinks and requests to pause work beside the loop, so the result is about `Unfolds`: a
call in the course of which files may be written and a pause requested before every turn. -/
namespace StepGraph

variable {σ : Type} {engine : Engine σ} {session begun next final : Session σ}
  {workspace : Workspace} {result : Except RunError Completion} {trail : List (Session σ)}

/-- A snapshot shows where a run stands. -/
structure Snapshot.Shows (snapshot : Snapshot) (status : RunStatus) (state : RunState) : Prop where
  status : snapshot.status = status
  iterations : snapshot.iterations = state.iterations
  current : snapshot.current = state.current
  stack : snapshot.stack = state.stack
  lastTransition : snapshot.lastTransition = state.lastTransition

private theorem Engine.snapshot_shows (engine : Engine σ) (session : Session σ)
    (status : RunStatus) :
    (engine.snapshot session status).Shows status session.run :=
  ⟨rfl, rfl, rfl, rfl, rfl⟩

/-- What is published at the end of a call: a snapshot of the state that is left, unless an
error has ended it. -/
def Engine.closing (engine : Engine σ) (final : Session σ) :
    Except RunError Completion → List Snapshot
  | .ok (.completed _) => [engine.snapshot final .completed]
  | .ok (.paused _) => [engine.snapshot final .paused]
  | .error _ => []

/-- The session with other files and another request to pause, or none. -/
def Session.amid (session : Session σ) (workspace : Workspace) : Session σ :=
  { session with workspace }

@[simp] theorem Session.amid_published :
    (session.amid workspace).published = session.published := rfl

/-- What an iteration that succeeds adds to a session. -/
structure Engine.Iterated (engine : Engine σ) (before after : Session σ) : Prop where
  counted : after.run.iterations = before.run.iterations + 1
  ordered : ∃ order, after.dispatched = before.dispatched ++ [order]
  published : after.published = before.published ++ [engine.snapshot after .running]

/-- What the turn that stops the loop adds to a session. -/
structure Engine.Settles (engine : Engine σ) (before : Session σ)
    (result : Except RunError Completion) (final : Session σ) : Prop where
  /-- One more order may be handed out, but only in an iteration that fails. -/
  ordered : final.dispatched = before.dispatched ∨
    ∃ order error, final.dispatched = before.dispatched ++ [order] ∧ result = .error error
  published : final.published = before.published ++ engine.closing final result
  /-- Of the state, only the history is replaced, and only where the iteration fails. -/
  run : final.run = before.run.answered final.run.payload
  kept : ∀ completion, result = .ok completion → final.run = before.run

private theorem Engine.published_of_execute {order : WorkOrder}
    {reply : Except Failure ExecutorResult}
    (executed : engine.execute session order = (reply, next)) :
    next.published = session.published :=
  congrArg (·.2.published) executed.symm

/-- Iterations publish nothing themselves. -/
theorem Engine.published_of_runStep {result : Except RunError Unit}
    (ran : engine.runStep session = (result, next)) : next.published = session.published := by
  cases Engine.iterates ran with
  | undispatched => rfl
  | unanswered _ replied | unrouted _ replied | advanced _ replied =>
    have kept := Engine.published_of_execute replied
    exact kept

theorem Engine.iterated_of_go (goes : engine.turn (session.amid workspace) = .go next) :
    engine.Iterated session next where
  counted := (Stage.counts_of_go goes).1
  ordered := by
    obtain ⟨dispatch, _, added⟩ := Engine.dispatched_of_go goes
    exact ⟨dispatch.order, added⟩
  published := by
    obtain ⟨_, later, _, _, _, ran, rfl⟩ := Engine.turn_eq_go_iff.mp goes
    have unshown := Engine.published_of_runStep ran
    rw [Session.amid_published] at unshown
    rw [← unshown]
    rfl

theorem Engine.settles_of_stop
    (stopped : engine.turn (session.amid workspace) = .stop result final) :
    engine.Settles session result final := by
  have run := Engine.run_of_stop stopped
  cases Engine.turn_eq_stop_iff.mp stopped with
  | completed => exact ⟨Or.inl rfl, rfl, run, fun _ _ => rfl⟩
  | paused => exact ⟨Or.inl rfl, rfl, run, fun _ _ => rfl⟩
  | limited => exact ⟨Or.inl rfl, (List.append_nil _).symm, run, nofun⟩
  | failed _ _ _ ran =>
    have unshown := Engine.published_of_runStep ran
    refine ⟨?_, unshown.trans (List.append_nil _).symm, run, nofun⟩
    rcases Engine.dispatched_of_stop stopped with ⟨none, _⟩ | ⟨dispatch, _, added⟩
    · exact Or.inl none
    · exact Or.inr ⟨dispatch.order, _, added, rfl⟩

/-- What may become of the loop from a session on when its surroundings change while it runs:
before each turn the files may have been written to, and a pause may have been requested or not.
The list holds the session right after each iteration that succeeds, in order. -/
inductive Engine.Unfolds (engine : Engine σ) :
    Session σ → List (Session σ) → Except RunError Completion → Session σ → Prop
  | stop {session final : Session σ} {result : Except RunError Completion} (workspace : Workspace)
      (stopped : engine.turn (session.amid workspace) = .stop result final) :
      Engine.Unfolds engine session [] result final
  | go {session next final : Session σ} {trail : List (Session σ)}
      {result : Except RunError Completion} (workspace : Workspace)
      (goes : engine.turn (session.amid workspace) = .go next)
      (rest : Engine.Unfolds engine next trail result final) :
      Engine.Unfolds engine session (next :: trail) result final

/-- Driving the loop is a way to go on, in surroundings that stay as they are left. -/
theorem Engine.unfolds_of_drive {fuel : Nat}
    (driven : engine.drive fuel session = some (result, final)) :
    ∃ trail, engine.Unfolds session trail result final := by
  obtain ⟨count, last, -, passes, stopped⟩ := Engine.drive_eq_some_iff.mp driven
  clear driven
  induction passes with
  | none session => exact ⟨[], .stop session.workspace stopped⟩
  | @more _ session next _ goes _ ih =>
    obtain ⟨trail, rest⟩ := ih stopped
    exact ⟨next :: trail, .go session.workspace goes rest⟩

/-- What becomes of a session in iterations that succeed, one after the other, and in the turn
that stops the loop behind them. -/
structure Engine.Accounts (engine : Engine σ) (begun : Session σ) (trail : List (Session σ))
    (result : Except RunError Completion) (final : Session σ) : Prop where
  /-- One snapshot for each iteration, of the state right after it, and one at the end. -/
  published : final.published = begun.published ++
    trail.map (fun after => engine.snapshot after .running) ++ engine.closing final result
  /-- Iterations are numbered on from the beginning. -/
  numbered : ∀ index after, trail[index]? = some after →
    after.run.iterations = begun.run.iterations + (index + 1)
  /-- Each of them hands out one order, and shows one snapshot. -/
  iterated : (begun :: trail).IsChain engine.Iterated
  settled : engine.Settles ((begun :: trail).getLast (List.cons_ne_nil begun trail)) result final

/-- Each turn adds its own part in front of what the rest of the way adds. -/
theorem Engine.Unfolds.accounts (unfolds : engine.Unfolds begun trail result final) :
    engine.Accounts begun trail result final := by
  induction unfolds with
  | stop workspace stopped =>
    have settles := Engine.settles_of_stop stopped
    refine ⟨?_, nofun, .singleton _, settles⟩
    rw [settles.published, List.map_nil, List.append_nil]
  | @go session next final trail result workspace goes _ ih =>
    have iterated := Engine.iterated_of_go goes
    constructor
    case published =>
      rw [ih.published, iterated.published, List.map_cons, List.append_assoc session.published,
        List.singleton_append]
    case numbered =>
      intro index after found
      cases index with
      | zero =>
        cases found
        exact iterated.counted
      | succ index =>
        rw [ih.numbered index after found, iterated.counted]
        omega
    case iterated => exact ih.iterated.cons_cons iterated
    case settled => simpa using ih.settled

/-- How many iterations there have been when a call begins. -/
def Call.count (session : Session σ) : Call → Nat
  | .run _ _ => 0
  | .resume => session.run.iterations

private theorem Engine.iterations_of_opening {asked : Call}
    (opens : engine.opening session asked = .ok begun) :
    begun.run.iterations = asked.count session := by
  cases Engine.opens_of_opening opens <;> rfl

/-- A call that is refused shows and hands out nothing. Any other drives the loop from a session
in which nothing more has been shown or handed out; and however the loop goes on there, with any
service, and with files written and pauses requested beside it, each iteration that succeeds
hands out one order and shows the state it has come to, a call that ends well shows the state it
leaves once more, and one that fails shows nothing more. -/
theorem snapshots_follow_iterations (engine : Engine σ) (session : Session σ) (asked : Call) :
    (∀ error, engine.opening session asked = .error error →
      ∀ fuel, engine.call fuel session asked = some (.error error, session)) ∧
    (∀ begun, engine.opening session asked = .ok begun →
      (begun.published = session.published ∧ begun.dispatched = session.dispatched ∧
        begun.run.iterations = asked.count session) ∧
      (∀ fuel result final, engine.call fuel session asked = some (result, final) →
        ∃ trail, engine.Unfolds begun trail result final) ∧
      ∀ trail result final, engine.Unfolds begun trail result final →
        engine.Accounts begun trail result final) ∧
    ∀ shown status, (engine.snapshot shown status).Shows status shown.run := by
  refine ⟨fun error refused fuel => Engine.call_of_refused refused, ?_, engine.snapshot_shows⟩
  intro begun opens
  have same := Engine.restarted_of_opening opens
  have shown : begun.published = session.published := by
    rw [same]
    rfl
  have handed : begun.dispatched = session.dispatched := by
    rw [same]
    rfl
  refine ⟨⟨shown, handed, Engine.iterations_of_opening opens⟩, ?_,
    fun _ _ _ unfolds => unfolds.accounts⟩
  intro fuel result final called
  rw [Engine.call_of_opening opens] at called
  exact Engine.unfolds_of_drive called

/-- Three steps of the roundabout are shown, and nothing when its limit is reached. -/
theorem limited_roundabout_is_shown :
    (∃ begun trail, roundaboutEngine.opening roundaboutSession (.run "run-1" "Main") = .ok begun ∧
      roundaboutEngine.Accounts begun trail (.error (.stepLimitExceeded 3)) roundaboutEnd ∧
      trail.length = 3) ∧
    roundaboutEnd.published.map (fun shown => (shown.status, shown.iterations)) =
      [(.running, 1), (.running, 2), (.running, 3)] := by
  obtain ⟨_, accepted, _⟩ :=
    snapshots_follow_iterations roundaboutEngine roundaboutSession (.run "run-1" "Main")
  have opens : roundaboutEngine.opening roundaboutSession (.run "run-1" "Main") =
      .ok (roundaboutSession.restarted (.startingAt "run-1" ⟨"Main", "A"⟩)) := by
    rw [Engine.opening, show roundaboutEngine.manifest.entrance "Main" = .ok ⟨"Main", "A"⟩ by
      decide]
    rfl
  obtain ⟨_, unfolds, accounts⟩ := accepted _ opens
  obtain ⟨trail, unfolds⟩ := unfolds 5 _ _ roundabout_is_limited
  have accounted := accounts _ _ _ unfolds
  have shown := congrArg List.length accounted.published
  have counted : roundaboutEnd.published.length = 3 := by decide
  refine ⟨⟨_, trail, opens, accounted, ?_⟩, by decide⟩
  simpa [counted, Engine.closing, roundaboutSession, Engine.newSession, Session.restarted]
    using shown.symm

end StepGraph
