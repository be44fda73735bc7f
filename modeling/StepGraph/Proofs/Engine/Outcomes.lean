import StepGraph.Proofs.Engine.Control
import StepGraph.Proofs.Engine.History
import StepGraph.Proofs.Engine.Interruption
import StepGraph.Proofs.Engine.Reached

/-! Where a run goes is decided by outcomes. Every turn whose artifacts can be read and whose
executor answers is a move of the manifest, for the context of a step that is declared can
always be put together: the groups of the callers are there. So two runs of manifests with one
outline go side by side as long as their executors answer with the same outcomes. -/
namespace StepGraph

/-! ## Turns on cue -/

namespace Stage

variable {σ : Type} {engine : Engine σ} {session next final : Session σ}
  {result : Except RunError Completion} {stage later : Stage} {cue : Cue} {id : StepId}

/-- The order that is handed out in the turn at a stage, if one is. -/
def order? (stage : Stage) : Option Dispatch :=
  if stage.session.workspace.pauseRequested || (stage.engine.limitReached? stage.run).isSome then
    none
  else stage.dispatch.toOption

/-- Whether a result is that an artifact cannot be read. -/
def isUnread : Except RunError Completion → Bool
  | .error (.artifactFailed ..) => true
  | _ => false

/-- No artifact is the reason that the loop stops, and if an order is handed out, the executor
answers it with the outcome of the cue, and a pause is requested then as the cue says. -/
structure Heeds (stage : Stage) (cue : Cue) : Prop where
  reads : ∀ result ∈ stage.result?, isUnread result = false
  answers : ∀ dispatch ∈ stage.order?, ∃ answer,
    (stage.engine.execute stage.session dispatch.order).1 = .ok answer ∧
      answer.outcome = cue.outcome ∧
        (stage.engine.execute stage.session dispatch.order).2.workspace.pauseRequested = cue.pause

instance : Decidable (stage.Heeds cue) :=
  decidable_of_iff
    ((∀ result ∈ stage.result?, isUnread result = false) ∧
      ∀ dispatch ∈ stage.order?, ∃ answer,
        (stage.engine.execute stage.session dispatch.order).1 = .ok answer ∧
          answer.outcome = cue.outcome ∧
            (stage.engine.execute stage.session dispatch.order).2.workspace.pauseRequested =
              cue.pause)
    ⟨fun ⟨reads, answers⟩ => ⟨reads, answers⟩, fun ⟨reads, answers⟩ => ⟨reads, answers⟩⟩

/-- What the turn at a stage comes to. -/
def move (stage : Stage) : Move :=
  ⟨stage.result?, stage.turned.run.control, stage.order?.isSome,
    stage.turned.session.workspace.pauseRequested⟩

private theorem move_of_stop (stopped : engine.turn session = .stop result final) :
    (⟨engine, session⟩ : Stage).move = ⟨some result, final.run.control,
      (⟨engine, session⟩ : Stage).order?.isSome, final.workspace.pauseRequested⟩ := by
  rw [move, result?_of_stop stopped, turned_of_stop stopped]
  rfl

private theorem move_of_go (goes : engine.turn session = .go next) :
    (⟨engine, session⟩ : Stage).move = ⟨none, next.run.control,
      (⟨engine, session⟩ : Stage).order?.isSome, next.workspace.pauseRequested⟩ := by
  rw [move, result?_of_go goes, turned_of_go goes]
  rfl

/-- An order can be handed out for a declared step whose artifacts do not fail, for the
context can be put together. -/
theorem Heeds.dispatches {step : Step}
    (heeds : (⟨engine, session⟩ : Stage).Heeds cue)
    (callers : ∀ frame ∈ session.run.stack, engine.manifest.HasGroup frame.caller.group)
    (waiting : session.run.current = some id)
    (unasked : session.workspace.pauseRequested = false)
    (below : engine.limitReached? session.run = none)
    (found : engine.manifest.step id = .ok step) :
    ∃ dispatch, engine.dispatch session.run session.service session.workspace.files =
      .ok dispatch ∧ dispatch.id = id ∧ dispatch.step = step := by
  cases read : step.readArtifacts id engine.sandbox session.workspace.files with
  | error error =>
    obtain ⟨path, _, failure, _, rfl⟩ := Step.readArtifacts_eq_error read
    have failed : engine.dispatch session.run session.service session.workspace.files =
        .error (.artifactFailed id path failure) := by
      simp only [Engine.dispatch, waiting, found, read, bind, Except.bind]
    have stopped := Engine.turn_eq_stop_iff.mpr
      (.failed waiting unasked below (Engine.Iterates.undispatched failed).runStep)
    cases heeds.reads _ (result?_of_stop stopped)
  | ok artifacts =>
    obtain ⟨context, built⟩ := Manifest.context_of_declares
      (engine.situation session.run session.service id step artifacts) ⟨step, found⟩ callers
    exact ⟨_, Engine.dispatch_eq_ok.mpr ⟨id, step, artifacts, context, waiting, found, read,
      built, rfl⟩, rfl, rfl⟩

/-- Showing a snapshot asks for no pause. -/
theorem pauseRequested_publish {status : RunStatus} :
    (engine.publish session status).workspace.pauseRequested =
      session.workspace.pauseRequested :=
  Snapshot.keep_pauseRequested ..

private theorem order?_of_proceeds (unasked : session.workspace.pauseRequested = false)
    (below : engine.limitReached? session.run = none) :
    (⟨engine, session⟩ : Stage).order? =
      (engine.dispatch session.run session.service session.workspace.files).toOption := by
  simp only [order?, run, unasked, below, Option.isSome_none, Bool.or_self, Bool.false_eq_true,
    ↓reduceIte]
  rfl

/-- When an order is handed out on cue, the outcome of the cue is followed. -/
theorem Heeds.move_of_dispatch {dispatch : Dispatch}
    (heeds : (⟨engine, session⟩ : Stage).Heeds cue)
    (waiting : session.run.current = some dispatch.id)
    (unasked : session.workspace.pauseRequested = false)
    (below : engine.limitReached? session.run = none)
    (found : engine.manifest.step dispatch.id = .ok dispatch.step)
    (dispatched :
      engine.dispatch session.run session.service session.workspace.files = .ok dispatch) :
    (⟨engine, session⟩ : Stage).move =
      engine.manifest.move engine.maxSteps session.run.control false cue := by
  have standing : session.run.control.current = some dispatch.id := waiting
  have room : engine.maxSteps.filter (· ≤ session.run.control.iterations) = none := below
  have handed := order?_of_proceeds unasked below
  rw [dispatched] at handed
  obtain ⟨answer, answered, outcome, pause⟩ := heeds.answers dispatch handed
  have replied : engine.execute session dispatch.order =
      (.ok answer, (engine.execute session dispatch.order).2) :=
    Prod.ext answered rfl
  have follows := (session.run.answered answer.payload).control_advance engine.manifest dispatch
    answer.outcome
  cases followed : (session.run.answered answer.payload).advance engine.manifest dispatch
      answer.outcome with
  | error error =>
    have stopped := Engine.turn_eq_stop_iff.mpr (.failed waiting unasked below
      (Engine.Iterates.unrouted dispatched replied followed).runStep)
    rw [followed, outcome] at follows
    rw [move_of_stop stopped, handed, Manifest.move_of_unrouted standing room found follows.symm,
      ← pause]
    rfl
  | ok advanced =>
    have goes := Engine.turn_eq_go_iff.mpr ⟨dispatch.id, _, waiting, unasked, below,
      (Engine.Iterates.advanced dispatched replied followed).runStep, rfl⟩
    rw [followed, outcome] at follows
    rw [move_of_go goes, handed, pauseRequested_publish,
      Manifest.move_of_followed standing room found follows.symm, ← pause]
    rfl

/-- The groups of the callers of open calls exist: a step is declared when it calls. -/
theorem OfRun.callersGrouped {manifest : Manifest} {group : String}
    {Given : ExecutorResult → Prop} (ofRun : stage.OfRun manifest group Given) :
    ∀ frame ∈ stage.run.stack, manifest.HasGroup frame.caller.group := by
  refine ofRun.invariant (P := fun state => ∀ frame ∈ state.stack,
    manifest.HasGroup frame.caller.group) (fun _ _ _ => List.forall_mem_nil _) ?_
  intro σ engine session later result same grouped ran
  cases Engine.iterates ran with
  | undispatched => exact grouped
  | unanswered => exact grouped
  | unrouted => exact grouped
  | advanced dispatched _ followed =>
    obtain ⟨id, step, _, _, _, found, _, _, rfl⟩ := Engine.dispatch_eq_ok.mp dispatched
    obtain ⟨_, _, _, _, _, reduced, rfl⟩ := RunState.advance_eq_ok.mp followed
    intro frame member
    rcases Action.mem_stack_of_reduce reduced member with opened | calls
    · exact grouped frame opened
    · rw [calls]
      exact Manifest.Declares.hasGroup ⟨step, same ▸ found⟩

/-! Without an order, a turn comes to what the manifest says, whatever the cue. -/

private theorem move_of_completed (ended : session.run.current = none) :
    (⟨engine, session⟩ : Stage).move = engine.manifest.move engine.maxSteps session.run.control
      session.workspace.pauseRequested cue := by
  have unhanded : (⟨engine, session⟩ : Stage).order? = none := by
    simp [order?, Stage.dispatch, run, Engine.dispatch, ended, Except.toOption]
  rw [move_of_stop (Engine.turn_eq_stop_iff.mpr (.completed ended)), unhanded,
    pauseRequested_publish, Manifest.move_of_ended ended]
  rfl

private theorem move_of_paused (waiting : session.run.current = some id)
    (requested : session.workspace.pauseRequested = true) :
    (⟨engine, session⟩ : Stage).move =
      engine.manifest.move engine.maxSteps session.run.control true cue := by
  have unhanded : (⟨engine, session⟩ : Stage).order? = none := by simp [order?, requested]
  rw [move_of_stop (Engine.turn_eq_stop_iff.mpr (.paused waiting requested)), unhanded,
    pauseRequested_publish, requested, Manifest.move_of_paused waiting]
  rfl

private theorem move_of_limited {limit : Nat} (waiting : session.run.current = some id)
    (unasked : session.workspace.pauseRequested = false)
    (reached : engine.limitReached? session.run = some limit) :
    (⟨engine, session⟩ : Stage).move =
      engine.manifest.move engine.maxSteps session.run.control false cue := by
  have limited : engine.maxSteps.filter (· ≤ session.run.control.iterations) = some limit :=
    reached
  have unhanded : (⟨engine, session⟩ : Stage).order? = none := by simp [order?, run, reached]
  rw [move_of_stop (Engine.turn_eq_stop_iff.mpr (.limited waiting unasked reached)), unhanded,
    unasked, Manifest.move_of_limited waiting limited]
  rfl

private theorem move_of_undeclared {error : RunError} (waiting : session.run.current = some id)
    (unasked : session.workspace.pauseRequested = false)
    (below : engine.limitReached? session.run = none)
    (missing : engine.manifest.step id = .error error) :
    (⟨engine, session⟩ : Stage).move =
      engine.manifest.move engine.maxSteps session.run.control false cue := by
  have room : engine.maxSteps.filter (· ≤ session.run.control.iterations) = none := below
  have failed : engine.dispatch session.run session.service session.workspace.files =
      .error error := by
    simp only [Engine.dispatch, waiting, missing, bind, Except.bind]
  have stopped := Engine.turn_eq_stop_iff.mpr
    (.failed waiting unasked below (Engine.Iterates.undispatched failed).runStep)
  rw [move_of_stop stopped, order?_of_proceeds unasked below, failed, unasked,
    Manifest.move_of_missing waiting room missing]
  rfl

/-- A turn on cue is the move of the manifest. -/
theorem Heeds.move_eq (heeds : stage.Heeds cue)
    (callers : ∀ frame ∈ stage.run.stack, stage.manifest.HasGroup frame.caller.group) :
    stage.move = stage.manifest.move stage.engine.maxSteps stage.run.control
      stage.session.workspace.pauseRequested cue := by
  obtain ⟨engine, session⟩ := stage
  cases waiting : session.run.current with
  | none => exact move_of_completed waiting
  | some id =>
    cases asked : session.workspace.pauseRequested with
    | true => exact move_of_paused waiting asked
    | false =>
      cases below : engine.limitReached? session.run with
      | some limit => exact move_of_limited waiting asked below
      | none =>
        cases found : engine.manifest.step id with
        | error error => exact move_of_undeclared waiting asked below found
        | ok step =>
          obtain ⟨dispatch, dispatched, rfl, rfl⟩ :=
            heeds.dispatches callers waiting asked below found
          exact heeds.move_of_dispatch waiting asked below found dispatched

/-! ## Side by side -/

private theorem Follows.control_eq (follows : stage.Follows later) :
    later.run.control = stage.move.control :=
  congrArg RunState.control follows.run_eq

/-- A request to pause is handed on from turn to turn, and a call of `resume` forgets it. -/
theorem Follows.pause_eq (follows : stage.Follows later) :
    later.session.workspace.pauseRequested =
      (stage.move.result?.isNone && stage.move.pause) := by
  cases follows with
  | turn goes => simp only [move_of_go goes, Option.isNone_none, Bool.true_and]
  | resume stopped =>
    simp only [move_of_stop stopped, Option.isNone_some, Bool.false_and]
    rfl

/-- The stages of a run of the group under one limit, with all calls of `resume` on it, to
which so many turns have led in which so many orders were handed out, each turn on the cue
for the next order. -/
inductive Cued (manifest : Manifest) (limit : Option Nat) (group : String) (cues : Nat → Cue) :
    (turns orders : Nat) → Stage → Prop
  | start {σ : Type} {engine : Engine σ} {session : Session σ} {runId : String} {entry : StepId}
      (same : engine.manifest = manifest) (limited : engine.maxSteps = limit)
      (begins : manifest.Begins group entry) :
      Cued manifest limit group cues 0 0 ⟨engine, session.restarted (.startingAt runId entry)⟩
  | next {turns orders : Nat} {stage later : Stage}
      (before : Cued manifest limit group cues turns orders stage)
      (heeds : stage.Heeds (cues orders)) (follows : stage.Follows later)
      (limited : later.engine.maxSteps = limit) :
      Cued manifest limit group cues (turns + 1) (orders + stage.move.asked.toNat) later

variable {first second : Manifest} {limit : Option Nat} {group : String} {cues : Nat → Cue}
  {turns orders others : Nat} {left right : Stage}

private theorem Cued.ofRun (cued : stage.Cued first limit group cues turns orders) :
    stage.OfRun first group fun _ => True := by
  induction cued with
  | start same _ begins => exact .start same begins
  | next _ _ follows _ ih => exact .next ih (fun _ _ => trivial) follows

private theorem Cued.maxSteps_eq (cued : stage.Cued first limit group cues turns orders) :
    stage.engine.maxSteps = limit := by
  cases cued with
  | start _ limited => exact limited
  | next _ _ _ limited => exact limited

/-- A run on cue goes onward until it is over. -/
theorem Cued.onward (cued : stage.Cued first limit group cues turns orders)
    (goesOn : stage.Heeds (cues orders) ∧ stage.run.current.isSome ∧
      orders + stage.move.asked.toNat = others) :
    stage.onward.Cued first limit group cues (turns + 1) others := by
  obtain ⟨heeds, waiting, counted⟩ := goesOn
  obtain ⟨entry, begins⟩ := cued.ofRun.begins
  have names : stage.manifest.validateNames = .ok () := by
    rw [cued.ofRun.manifest_eq]
    exact begins.names
  exact counted ▸ .next cued heeds (follows_onward waiting names) cued.maxSteps_eq

/-- Every turn on cue in a run is the move of its manifest. -/
theorem Cued.move_eq (cued : stage.Cued first limit group cues turns orders)
    (heeds : stage.Heeds cue) :
    stage.move = first.move limit stage.run.control stage.session.workspace.pauseRequested
      cue := by
  have same : stage.manifest = first := cued.ofRun.manifest_eq
  have move := heeds.move_eq (same ▸ cued.ofRun.callersGrouped)
  rwa [same, cued.maxSteps_eq] at move

/-- Stages of two runs that come to the same place by the same number of turns, with a pause
requested in both or in none, make the same move on one cue. -/
theorem Cued.move_alike (alike : first.outline = second.outline)
    (one : left.Cued first limit group cues turns orders)
    (other : right.Cued second limit group cues turns others)
    (place : left.run.control = right.run.control)
    (pause : left.session.workspace.pauseRequested = right.session.workspace.pauseRequested)
    (here : left.Heeds cue) (there : right.Heeds cue) : left.move = right.move := by
  rw [one.move_eq here, other.move_eq there, place, pause, Manifest.move_congr alike]

/-- Runs on one sequence of cues stay side by side. -/
theorem Cued.side_by_side (alike : first.outline = second.outline)
    (one : left.Cued first limit group cues turns orders)
    (other : right.Cued second limit group cues turns others) :
    orders = others ∧ left.run.control = right.run.control ∧
      left.session.workspace.pauseRequested = right.session.workspace.pauseRequested := by
  induction one generalizing others right with
  | start _ _ begins =>
    cases other with
    | start _ _ again =>
      have entered := begins.entry
      rw [Manifest.entryOf_congr alike, again.entry] at entered
      cases entered
      exact ⟨rfl, rfl, rfl⟩
  | next before heeds follows _ ih =>
    cases other with
    | next earlier heeded followed _ =>
      obtain ⟨rfl, place, pause⟩ := ih earlier
      have moves := before.move_alike alike earlier place pause heeds heeded
      rw [follows.control_eq, follows.pause_eq, followed.control_eq, followed.pause_eq, moves]
      exact ⟨rfl, rfl, rfl⟩

end Stage

/-- With one outline, runs of a group begin at the same step or are refused for the same
reason. -/
theorem Manifest.begin_alike {first second : Manifest} (alike : first.outline = second.outline)
    (group : String) :
    (∃ entry, first.Begins group entry ∧ second.Begins group entry) ∨
      ∃ error, first.Refuses group error ∧ second.Refuses group error := by
  have again : second.entrance group = first.entrance group := by
    simp only [entrance, validateNames_congr alike, entryOf_congr alike]
  cases enters : first.entrance group with
  | ok entry =>
    exact Or.inl ⟨entry, begins_of_entrance enters, begins_of_entrance (again.trans enters)⟩
  | error error =>
    exact Or.inr ⟨error, refuses_of_entrance enters, refuses_of_entrance (again.trans enters)⟩

/-- Outcomes decide where a run goes. With one outline, runs of a group begin at the same step
or are refused for the same reason; and as long as their executors answer with the same
outcomes and pauses are requested in the same orders, two runs under one limit are at the same
place after the same number of turns, have handed out the same number of orders, and stop in
the same turn with the same result, whatever else is different. -/
theorem outcomes_decide_control {first second : Manifest} (alike : first.outline = second.outline)
    (group : String) :
    ((∃ entry, first.Begins group entry ∧ second.Begins group entry) ∨
      ∃ error, first.Refuses group error ∧ second.Refuses group error) ∧
    ∀ limit cues turns orders others left right,
      Stage.Cued first limit group cues turns orders left →
      Stage.Cued second limit group cues turns others right →
        orders = others ∧ left.run.control = right.run.control ∧
        (left.Heeds (cues orders) → right.Heeds (cues others) →
          left.result? = right.result? ∧
          left.turned.run.control = right.turned.run.control) := by
  refine ⟨Manifest.begin_alike alike group, ?_⟩
  intro limit cues turns orders others left right one other
  obtain ⟨rfl, place, pause⟩ := one.side_by_side alike other
  refine ⟨rfl, place, fun here there => ?_⟩
  have moves := one.move_alike alike other place pause here there
  exact ⟨congrArg Move.result? moves, congrArg Move.control moves⟩

/-- The steps of `relay` in other hands: those who do them are briefed, read notes and see no
more of the history than the last entry. -/
def briefedRelay : Manifest :=
  ⟨SortedMap.ofList [("Main", {
    entryStep := "A"
    inherits := false
    staticContext := OrderedMap.ofList [("tone", "dry")]
    steps := OrderedMap.ofList [
      ("A", ⟨"writer", some "Draft it.", [.last 1], ["notes.txt"], [⟨"SUCCESS", "JUMP:Main__B"⟩]⟩),
      ("B", ⟨"editor", none, [], [], [⟨"SUCCESS", "RETURN"⟩]⟩)] })]⟩

/-- All orders succeed, and a pause is requested in the first. -/
def relayCues (order : Nat) : Cue := ⟨"SUCCESS", order = 0⟩

/-- A run of `relay`, answered by replies. -/
def repliedRelay : Stage where
  engine : Engine Replies := ⟨relay, Replies.service, "/work", some 5, []⟩
  session := (Engine.newSession
    ⟨[⟨true, none, .context, "SUCCESS"⟩, ⟨false, none, .append [], "SUCCESS"⟩], []⟩
    ⟨.fresh ["work"], false⟩).restarted (.startingAt "run-1" ⟨"Main", "A"⟩)

/-- A run of `briefedRelay`, answered from a script. -/
def scriptedRelay : Stage where
  engine : Engine Script := ⟨briefedRelay, Script.service, "/desk", some 5, ["seen.json"]⟩
  session := (Engine.newSession
    ⟨[], "SUCCESS", [], [], [("writer", ⟨some "A poet.", ∅⟩)], some 1, []⟩
    ⟨(FileSystem.fresh ["desk"]).put ["desk", "notes.txt"] (.file "rhymes".toUTF8 .plain), false⟩
    ).restarted (.startingAt "run-2" ⟨"Main", "A"⟩)

/-- In both runs the first step is run, the run pauses and is resumed, and the second step is
run, all on cue. -/
theorem relays_are_on_cue : ∀ stage ∈ [repliedRelay, scriptedRelay],
    (stage.Heeds (relayCues 0) ∧ stage.run.current.isSome ∧ 0 + stage.move.asked.toNat = 1) ∧
      (stage.onward.Heeds (relayCues 1) ∧ stage.onward.run.current.isSome ∧
        1 + stage.onward.move.asked.toNat = 1) ∧
      (stage.onward.onward.Heeds (relayCues 1) ∧ stage.onward.onward.run.current.isSome ∧
        1 + stage.onward.onward.move.asked.toNat = 2) ∧
      stage.onward.onward.onward.Heeds (relayCues 2) := by
  decide

private theorem relays_stop : repliedRelay.onward.result? = some (.ok (.paused ⟨"Main", "B"⟩)) ∧
    repliedRelay.onward.onward.onward.result? = some (.ok (.completed 2)) := by
  decide

/-- Both runs pause behind the first step, are resumed, and complete in the same turn. -/
theorem relays_go_side_by_side :
    relay.outline = briefedRelay.outline ∧
      repliedRelay.onward.onward.onward.Cued relay (some 5) "Main" relayCues 3 2 ∧
      scriptedRelay.onward.onward.onward.Cued briefedRelay (some 5) "Main" relayCues 3 2 ∧
      repliedRelay.onward.result? = some (.ok (.paused ⟨"Main", "B"⟩)) ∧
      repliedRelay.onward.onward.onward.result? = some (.ok (.completed 2)) ∧
      scriptedRelay.onward.onward.onward.result? = some (.ok (.completed 2)) := by
  have alike : relay.outline = briefedRelay.outline := by decide
  have begins : briefedRelay.Begins "Main" ⟨"Main", "A"⟩ := ⟨by decide, by decide⟩
  obtain ⟨asked, paused, resumed, ends⟩ := relays_are_on_cue repliedRelay (by simp)
  obtain ⟨asked', paused', resumed', ends'⟩ := relays_are_on_cue scriptedRelay (by simp)
  have replied : repliedRelay.onward.onward.onward.Cued relay (some 5) "Main" relayCues 3 2 :=
    (((Stage.Cued.start rfl rfl relay_begins).onward asked).onward paused).onward resumed
  have scripted :
      scriptedRelay.onward.onward.onward.Cued briefedRelay (some 5) "Main" relayCues 3 2 :=
    (((Stage.Cued.start rfl rfl begins).onward asked').onward paused').onward resumed'
  obtain ⟨pauses, completes⟩ := relays_stop
  obtain ⟨_, sideBySide⟩ := outcomes_decide_control alike "Main"
  obtain ⟨_, _, stops⟩ := sideBySide _ _ _ _ _ _ _ replied scripted
  obtain ⟨same, _⟩ := stops ends ends'
  exact ⟨alike, replied, scripted, pauses, completes, same ▸ completes⟩

end StepGraph
