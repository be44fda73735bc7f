import StepGraph.Proofs.Engine.Interruption
import StepGraph.Proofs.Engine.Orders
import StepGraph.Proofs.RunState.Store
import StepGraph.Proofs.Text.Utf8

/-! Pausing is transparent. A run that is paused while executors are at work, and
resumed until it is paused no more, does what it does without a pause, also when each
resume takes place in a new engine that has loaded the stored state. The quiet run is
driven beside the calls: at each pause it stands where they do, and it ends with them.
What a run can look at must not give the pauses away; a file of snapshots does. -/
namespace StepGraph

variable {σ : Type} {work : Undertaking σ} {path : Option String}
  {alike : FileSystem → FileSystem → Prop} {pauses : Nat → Bool}
  {session quiet next final : Session (σ × Nat)} {result : Except RunError Completion} {fuel : Nat}

/-- How a paused session comes to the next call: as it is, or in a new engine, with the
state that is loaded from the file into which it has been stored. A file holds counters
that are words. -/
inductive Session.Reopens {τ : Type} (path : Option String) (paused : Session τ) :
    Session τ → Prop
  | same : Session.Reopens path paused paused
  | anew {file : String} {stored : Workspace} {run : RunState} (given : path = some file)
      (word : paused.run.iterations < Data.wordBound)
      (wrote : (paused.run.store file).run paused.workspace = (.ok (), stored))
      (loaded : RunState.load stored.files file = .ok run) :
      Session.Reopens path paused { paused with run, workspace := stored.clearPause }

/-- So many calls: one of `run`, and one of `resume` after every pause. -/
inductive Engine.Plays {τ : Type} (engine : Engine τ) (path : Option String)
    (runId group : String) (start : Session τ) :
    Nat → Except RunError Completion → Session τ → Prop
  | run {fuel : Nat} {result : Except RunError Completion} {final : Session τ}
      (called : engine.run fuel runId group start = some (result, final)) :
      Engine.Plays engine path runId group start 1 result final
  | resume {calls fuel : Nat} {place : StepId} {result : Except RunError Completion}
      {paused next final : Session τ}
      (before : Engine.Plays engine path runId group start calls (.ok (.paused place)) paused)
      (reopened : paused.Reopens path next)
      (called : engine.resume fuel next = some (result, final)) :
      Engine.Plays engine path runId group start (calls + 1) result final

/-- How far the quiet run has come, from the session in which it was opened, when that
many calls have come to a result: to where the run is paused, or to its own end. -/
inductive Undertaking.Follows (work : Undertaking σ) (alike : FileSystem → FileSystem → Prop)
    (opened : Session (σ × Nat)) (calls : Nat) :
    Except RunError Completion → Session (σ × Nat) → Prop
  | paused {place : StepId} {final quiet : Session (σ × Nat)} {count : Nat}
      (standing : final.run.current = some place) (far : calls ≤ count)
      (passes : (work.engine never).Passes count opened quiet)
      (along : Alongside alike final quiet) :
      Undertaking.Follows work alike opened calls (.ok (.paused place)) final
  | ended {result : Except RunError Completion} {final last quiet : Session (σ × Nat)} {count : Nat}
      (unpaused : ∀ place, result ≠ .ok (.paused place))
      (passes : (work.engine never).Passes count opened last)
      (stopped : (work.engine never).turn last = .stop result quiet)
      (along : Alongside alike final quiet) :
      Undertaking.Follows work alike opened calls result final

/-- One call more, and at least one turn of the quiet run more: a call does not begin
with a pause. -/
theorem Undertaking.Overlooks.follows_of_drive (overlooks : work.Overlooks path alike)
    {opened : Session (σ × Nat)} {calls count : Nat} (far : calls ≤ count)
    (before : (work.engine never).Passes count opened quiet)
    (along : Alongside alike session quiet) (unasked : session.workspace.pauseRequested = false)
    (driven : (work.engine pauses).drive fuel session = some (result, final)) :
    work.Follows alike opened (calls + 1) result final := by
  obtain ⟨further, last, _, passes, stopped⟩ := Engine.drive_eq_some_iff.mp driven
  obtain ⟨quietly, others, beside⟩ := overlooks.passes passes along
  rcases overlooks.stop beside stopped with
    ⟨place, rfl, standing, requested, along⟩ | ⟨unpaused, quietEnd, stopped, along⟩
  · refine .paused standing ?_ (before.trans others) along
    -- Without a turn the call would have found a request to pause when it began.
    cases passes with
    | none =>
      rw [unasked] at requested
      cases requested
    | more => omega
  · exact .ended unpaused (before.trans others) stopped along

private theorem Session.Reopens.run_eq {τ : Type} {paused next : Session τ}
    (reopened : paused.Reopens path next) (legible : paused.run.Legible) :
    next.run = paused.run := by
  cases reopened with
  | same => rfl
  | anew _ word wrote loaded =>
    rw [RunState.load_of_store (legible.held word) wrote] at loaded
    exact (Except.ok.inj loaded).symm

/-- A session that is taken up again is still beside the quiet one. -/
theorem Undertaking.Overlooks.reopen (overlooks : work.Overlooks path alike)
    {paused : Session (σ × Nat)} (along : Alongside alike paused quiet)
    (legible : paused.run.Legible) (reopened : paused.Reopens path next) :
    Alongside alike (next.restarted next.run) quiet := by
  have kept := reopened.run_eq legible
  cases reopened with
  | same =>
    exact ⟨along.run, along.service, along.dispatched, along.published, along.files, along.unasked⟩
  | anew given _ wrote _ =>
    have written := overlooks.states _ given _ _ _ (overlooks.left along.files) wrote
    have files := overlooks.trans written along.files
    exact ⟨kept.trans along.run, along.service, along.dispatched, along.published, files,
      along.unasked⟩

variable {runId group : String} {entry : StepId} {service : σ × Nat} {workspace : Workspace}
  {calls : Nat}

/-- Calls in a row lead to states whose ids read back. -/
theorem Engine.Plays.legible {τ : Type} {engine : Engine τ} {start final : Session τ}
    (begins : engine.manifest.Begins group entry)
    (plays : engine.Plays path runId group start calls result final) : final.run.Legible := by
  induction plays with
  | run called =>
    rw [Engine.run_of_begins begins] at called
    have opened : (RunState.startingAt runId entry).Legible :=
      RunState.legible_startingAt (Manifest.readsBack_of_entryOf begins.entry)
    exact (Manifest.Maintains.drive (maintains_legible _) opened called).1
  | resume before reopened called ih =>
    have kept := reopened.run_eq ih
    rcases Engine.resume_eq_some called with ⟨_, _, rfl⟩ | ⟨_, _, _, rfl⟩ | ⟨_, _, driven⟩
    · exact kept ▸ ih
    · exact kept ▸ ih
    · exact (Manifest.Maintains.drive (maintains_legible _) (kept ▸ ih) driven).1

/-- The session in which a run begins at a step. -/
def Session.opened (service : σ × Nat) (workspace : Workspace) (runId : String)
    (entry : StepId) : Session (σ × Nat) :=
  (Engine.newSession service workspace).restarted (.startingAt runId entry)

private theorem Alongside.opened (met : alike workspace.files workspace.files) :
    Alongside alike (Session.opened service workspace runId entry)
      (Session.opened service workspace runId entry) :=
  ⟨rfl, rfl, rfl, rfl, met, rfl⟩

/-- However the calls went, the quiet run can follow them. -/
theorem Undertaking.Overlooks.follows (overlooks : work.Overlooks path alike)
    (met : alike workspace.files workspace.files) (begins : work.manifest.Begins group entry)
    (plays : (work.engine pauses).Plays path runId group (Engine.newSession service workspace)
      calls result final) :
    work.Follows alike (Session.opened service workspace runId entry) calls result final := by
  induction plays with
  | run called =>
    rw [Engine.run_of_begins begins] at called
    exact overlooks.follows_of_drive (Nat.zero_le 0) (.none _) (.opened met) rfl called
  | resume before reopened called ih =>
    have legible := before.legible begins
    have kept := reopened.run_eq legible
    cases ih with
    | paused standing far passes along =>
      rcases Engine.resume_eq_some called with ⟨ended, _, _⟩ | ⟨_, invalid, _⟩ | ⟨_, _, driven⟩
      · rw [kept, standing] at ended
        cases ended
      · exact absurd (begins.names.symm.trans invalid) nofun
      · exact overlooks.follows_of_drive far passes (overlooks.reopen along legible reopened) rfl
          driven
    | ended unpaused => exact absurd rfl (unpaused _)

/-- Pauses make no difference to a run of a group, whatever their number and whenever
they are requested. -/
structure Undertaking.Transparent (work : Undertaking σ) (path : Option String)
    (runId group : String) (start : Session (σ × Nat)) : Prop where
  /-- Calls that come to an end come to the end of the run without pauses: with the same
  result, the same state, the same orders, and the same snapshots but those of pauses. -/
  agrees : ∀ pauses calls result final,
    (work.engine pauses).Plays path runId group start calls result final →
      (∀ place, result ≠ .ok (.paused place)) →
        ∃ fuel quiet, (work.engine never).run fuel runId group start = some (result, quiet) ∧
          final.run = quiet.run ∧ final.dispatched = quiet.dispatched ∧
          final.published.filter (·.status ≠ .paused) = quiet.published
  /-- If the run without pauses ends, the calls come to an end: each of them does, and
  they are no more than the fuel that the run takes. -/
  ends : ∀ pauses fuel outcome,
    (work.engine never).run fuel runId group start = some outcome →
      (∃ first, (work.engine pauses).run fuel runId group start = some first) ∧
        ∀ calls place paused,
          (work.engine pauses).Plays path runId group start calls (.ok (.paused place)) paused →
            calls < fuel ∧ ∀ next, paused.Reopens path next →
              ∃ later, (work.engine pauses).resume fuel next = some later
  /-- A state that is stored at a pause is loaded as it was. -/
  reloads : ∀ pauses calls place paused file stored,
    (work.engine pauses).Plays path runId group start calls (.ok (.paused place)) paused →
      paused.run.iterations < Data.wordBound →
        (paused.run.store file).run paused.workspace = (.ok (), stored) →
          RunState.load stored.files file = .ok paused.run
  /-- The step that a pause names is the one with which the next call begins. -/
  places : ∀ pauses calls place paused next fuel result final,
    (work.engine pauses).Plays path runId group start calls (.ok (.paused place)) paused →
      paused.Reopens path next → (work.engine pauses).resume fuel next = some (result, final) →
        next.run.current = some place ∧
          ∃ orders, (work.engine pauses).HandsOut (next.restarted next.run) orders final

/-- A run that is refused fails in its only call. -/
theorem Engine.Plays.of_refused {τ : Type} {engine : Engine τ} {start final : Session τ}
    {error : RunError}
    (refuses : ∀ fuel, engine.run fuel runId group start = some (.error error, start))
    (plays : engine.Plays path runId group start calls result final) :
    result = .error error ∧ final = start := by
  induction plays with
  | run called =>
    rw [refuses] at called
    cases called
    exact ⟨rfl, rfl⟩
  | resume _ _ _ ih => exact absurd ih.1 nofun

/-- A run that is refused is never paused. -/
theorem Undertaking.transparent_of_refused {error : RunError}
    (refuses : ∀ pauses fuel,
      (work.engine pauses).run fuel runId group (Engine.newSession service workspace) =
        some (.error error, Engine.newSession service workspace)) :
    work.Transparent path runId group (Engine.newSession service workspace) := by
  constructor
  case agrees =>
    intro pauses calls result final plays _
    obtain ⟨rfl, rfl⟩ := plays.of_refused (refuses pauses)
    exact ⟨0, _, refuses never 0, rfl, rfl, rfl⟩
  case ends =>
    intro pauses fuel _ _
    exact ⟨⟨_, refuses pauses fuel⟩, fun _ _ _ plays =>
      absurd (plays.of_refused (refuses pauses)).1 nofun⟩
  case reloads =>
    intro pauses _ _ _ _ _ plays
    exact absurd (plays.of_refused (refuses pauses)).1 nofun
  case places =>
    intro pauses _ _ _ _ _ _ _ plays
    exact absurd (plays.of_refused (refuses pauses)).1 nofun

/-- A call after a pause has less to do than the run without pauses, and comes to an end
with the fuel that this run takes. -/
theorem Undertaking.Overlooks.resume_ends (overlooks : work.Overlooks path alike)
    (met : alike workspace.files workspace.files) (begins : work.manifest.Begins group entry)
    {outcome : Except RunError Completion × Session (σ × Nat)}
    (ran : (work.engine never).run fuel runId group (Engine.newSession service workspace) =
      some outcome)
    {place : StepId} {paused : Session (σ × Nat)}
    (plays : (work.engine pauses).Plays path runId group (Engine.newSession service workspace)
      calls (.ok (.paused place)) paused) :
    calls < fuel ∧ ∀ next, paused.Reopens path next →
      ∃ later, (work.engine pauses).resume fuel next = some later := by
  rw [Engine.run_of_begins begins] at ran
  obtain ⟨total, last, paid, full, stopped⟩ := Engine.drive_eq_some_iff.mp ran
  cases overlooks.follows met begins plays with
  | paused standing far near beside =>
    obtain ⟨further, rfl, rest⟩ := near.remaining full stopped
    refine ⟨by omega, fun next reopened => ?_⟩
    have legible := plays.legible begins
    have waiting := (congrArg RunState.current (reopened.run_eq legible)).trans standing
    rw [Engine.resume_of_current waiting begins.names]
    have driven := Engine.drive_eq_some_iff.mpr
      ⟨further, last, (by omega : further < fuel), rest, stopped⟩
    exact overlooks.drive_ends (overlooks.reopen beside legible reopened) driven
  | ended unpaused => exact absurd rfl (unpaused _)

/-- Pausing is transparent to every run that overlooks the files of the state and of
the snapshots. -/
theorem pauses_are_transparent (overlooks : work.Overlooks path alike) (service : σ × Nat)
    (workspace : Workspace) (met : alike workspace.files workspace.files)
    (runId group : String) :
    work.Transparent path runId group (Engine.newSession service workspace) := by
  rcases work.manifest.begins_or_refuses group with ⟨entry, begins⟩ | ⟨error, refuses⟩
  · constructor
    case agrees =>
      intro pauses calls result final plays unpaused
      cases overlooks.follows met begins plays with
      | paused => exact absurd rfl (unpaused _)
      | @ended _ _ last quiet count _ passes stopped beside =>
        refine ⟨count + 1, quiet, ?_, beside.run, beside.dispatched, beside.published⟩
        rw [Engine.run_of_begins begins]
        exact Engine.drive_eq_some_iff.mpr ⟨count, last, Nat.lt_succ_self count, passes, stopped⟩
    case ends =>
      intro pauses fuel outcome ran
      refine ⟨?_, fun calls place paused => overlooks.resume_ends met begins ran⟩
      rw [Engine.run_of_begins begins] at ran ⊢
      exact overlooks.drive_ends (.opened met) ran
    case reloads =>
      intro pauses calls place paused file stored plays word wrote
      exact RunState.load_of_store ((plays.legible begins).held word) wrote
    case places =>
      intro pauses calls place paused next fuel result final plays reopened called
      cases overlooks.follows met begins plays with
      | paused standing =>
        have kept := reopened.run_eq (plays.legible begins)
        exact ⟨(congrArg RunState.current kept).trans standing,
          Engine.handsOut_of_resume called begins.names⟩
      | ended unpaused => exact absurd rfl (unpaused _)
  · exact Undertaking.transparent_of_refused fun pauses fuel =>
      refuses (work.engine pauses) rfl fuel runId _

/-- A service that answers every order with what it was told and one outcome. -/
def FileService.steady : FileService Unit where
  profile? _ _ := none
  execute order state files := (.ok ⟨order.context.conversation, "SUCCESS"⟩, state, files)

/-- A pause that is requested during the first call. -/
def atFirst : Nat → Bool := fun call => call = 0

/-- Two steps in a row, of which the second sees the given artifacts. -/
def twoSteps (artifacts : List String) : Undertaking Unit where
  manifest := .small [("Main", [
    ("A", .routing [⟨"SUCCESS", "JUMP:Main__B"⟩]),
    ("B", { Step.routing [⟨"SUCCESS", "RETURN"⟩] with artifacts })])]
  service := .steady
  sandbox := "/work"
  maxSteps := none
  snapshotFiles := ["/work/snapshot.json"]

/-- Where the two steps are about to be run. -/
def twoStepsSession : Session (Unit × Nat) := Engine.newSession ((), 0) ⟨.fresh ["work"], false⟩

/-- Steps that see no artifacts overlook everything. -/
theorem twoSteps_overlook :
    (twoSteps []).Overlooks (some "/work/run.json") fun _ _ => True where
  symm _ := trivial
  trans _ _ := trivial
  snapshots _ _ _ := trivial
  states _ _ _ _ _ _ _ := trivial
  artifacts _ id step found := by
    have none : ∀ id step, (twoSteps []).manifest.step id = .ok step → step.artifacts = [] :=
      Manifest.forall_steps_iff.mpr (by decide)
    rw [none id step found]
    nofun
  executors _ _ _ := ⟨rfl, rfl, trivial⟩

/-- The two steps, paused between them. -/
def halfway : Session (Unit × Nat) :=
  twoStepsSession.after (((twoSteps []).engine atFirst).run 5 "run-1" "Main" twoStepsSession)

/-- The workspace when that pause has been stored. -/
def halfwayStored : Workspace := ((halfway.run.store "/work/run.json").run halfway.workspace).2

/-- The run that a new engine goes on with. -/
def halfwayReopened : Session (Unit × Nat) :=
  { halfway with run := halfway.run, workspace := halfwayStored.clearPause }

/-- The two steps are run alike with and without a pause, also through the file of the
state. -/
theorem two_steps_pause_transparently :
    (twoSteps []).Transparent (some "/work/run.json") "run-1" "Main" twoStepsSession ∧
      ∃ final fuel quiet, ((twoSteps []).engine atFirst).Plays (some "/work/run.json") "run-1"
          "Main" twoStepsSession 2 (.ok (.completed 2)) final ∧
        ((twoSteps []).engine never).run fuel "run-1" "Main" twoStepsSession =
          some (.ok (.completed 2), quiet) ∧ final.run = quiet.run := by
  have transparent := pauses_are_transparent twoSteps_overlook ((), 0) ⟨.fresh ["work"], false⟩
    trivial "run-1" "Main"
  refine ⟨transparent, ?_⟩
  have paused : ((twoSteps []).engine atFirst).run 5 "run-1" "Main" twoStepsSession =
      some (.ok (.paused ⟨"Main", "B"⟩), halfway) := Session.eq_some_after (by decide)
  have wrote : (halfway.run.store "/work/run.json").run halfway.workspace =
      (.ok (), halfwayStored) := Prod.ext (by decide) rfl
  have word : halfway.run.iterations < Data.wordBound := by decide
  have loaded := transparent.reloads atFirst 1 _ halfway _ _ (.run paused) word wrote
  have ended : ((twoSteps []).engine atFirst).resume 5 halfwayReopened =
      some (.ok (.completed 2),
        halfwayReopened.after (((twoSteps []).engine atFirst).resume 5 halfwayReopened)) :=
    Session.eq_some_after (by decide)
  have plays : ((twoSteps []).engine atFirst).Plays (some "/work/run.json") "run-1" "Main"
      twoStepsSession 2 (.ok (.completed 2)) _ :=
    .resume (.run paused) (.anew rfl word wrote loaded) ended
  obtain ⟨fuel, quiet, ran, same, _⟩ := transparent.agrees atFirst 2 _ _ plays nofun
  exact ⟨_, fuel, quiet, plays, ran, same⟩

/-- The two steps, paused between them, with the second one seeing the snapshots. -/
def watchedPause : Session (Unit × Nat) :=
  twoStepsSession.after
    (((twoSteps ["snapshot.json"]).engine atFirst).run 5 "run-1" "Main" twoStepsSession)

/-- Their run after that pause. -/
def watchedEnd : Session (Unit × Nat) :=
  watchedPause.after (((twoSteps ["snapshot.json"]).engine atFirst).resume 5 watchedPause)

/-- Their run without a pause. -/
def unwatchedEnd : Session (Unit × Nat) :=
  twoStepsSession.after
    (((twoSteps ["snapshot.json"]).engine never).run 5 "run-1" "Main" twoStepsSession)

/-- What the second step of a run has seen first. -/
def RunState.seenSecond (state : RunState) : Option String := do
  let entry ← state.log[1]?
  let seen ← entry.input.head?
  return seen.content

/-- The snapshot that stands in the file between the two steps. -/
def shownBetween (status : RunStatus) : Snapshot :=
  watchedPause.run.snapshot (twoSteps ["snapshot.json"]).manifest.shape status

private theorem shownBetween_differs :
    (shownBetween .paused).fileText ≠ (shownBetween .running).fileText := by
  have differs : Json.render .pretty 0 (shownBetween .paused).toData ≠
      Json.render .pretty 0 (shownBetween .running).toData := by decide
  intro same
  have texts := congrArg String.toList same
  simp only [Snapshot.fileText, Json.pretty, String.toList_append, String.toList_ofList,
    List.append_cancel_right_eq] at texts
  exact differs texts

set_option maxRecDepth 10000 in
/-- A step that sees the file of the snapshots can tell whether the run was paused
before it. -/
theorem seen_snapshots_are_no_secret :
    ¬ (twoSteps ["snapshot.json"]).Transparent none "run-1" "Main" twoStepsSession := by
  intro transparent
  have paused : ((twoSteps ["snapshot.json"]).engine atFirst).run 5 "run-1" "Main"
      twoStepsSession = some (.ok (.paused ⟨"Main", "B"⟩), watchedPause) :=
    Session.eq_some_after (by decide)
  have ended : ((twoSteps ["snapshot.json"]).engine atFirst).resume 5 watchedPause =
      some (.ok (.completed 2), watchedEnd) := Session.eq_some_after (by decide)
  have quietly : ((twoSteps ["snapshot.json"]).engine never).run 5 "run-1" "Main"
      twoStepsSession = some (.ok (.completed 2), unwatchedEnd) :=
    Session.eq_some_after (by decide)
  obtain ⟨fuel, quiet, ran, same, _⟩ :=
    transparent.agrees atFirst 2 _ watchedEnd (.resume (.run paused) .same ended) nofun
  have unique := congrArg (·.2.run.seenSecond) (Engine.run_unique ran quietly)
  have seen : watchedEnd.run.seenSecond =
      some (Text.Utf8.lossy (shownBetween .paused).fileText.toUTF8.toList) := by rfl
  have unseen : unwatchedEnd.run.seenSecond =
      some (Text.Utf8.lossy (shownBetween .running).fileText.toUTF8.toList) := by rfl
  rw [Text.Utf8.lossy_toUTF8] at seen unseen
  have equal := (seen.symm.trans (congrArg RunState.seenSecond same)).trans (unique.trans unseen)
  exact shownBetween_differs (Option.some.inj equal)

end StepGraph
