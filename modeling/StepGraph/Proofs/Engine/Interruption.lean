import StepGraph.Proofs.Engine.Calls
import StepGraph.RunState.Store

/-! Runs that are interrupted. A pause that is requested while an executor is at work
is a matter of the service and of nothing else; two sessions of one undertaking, one
with pauses and one without, stand side by side as long as they differ only in the
snapshots of the pauses, in the request to pause, and in files that nothing in the run
looks at. A pause stops the one and leaves the other where it is; every other turn is
taken by both. -/
namespace StepGraph

variable {σ : Type}

/-- A service that depends on its own state, on the orders and on the files alone. -/
structure FileService (σ : Type) where
  profile? : σ → String → Option Profile
  execute : WorkOrder → σ → FileSystem → Except Failure ExecutorResult × σ × FileSystem

/-- The service, with a pause requested during some of its calls. The calls are counted
beside its state; during the one with a number of `pauses` the request comes in. -/
def FileService.interrupted (service : FileService σ) (pauses : Nat → Bool) :
    Service (σ × Nat) where
  profile? state name := service.profile? state.1 name
  execute order state workspace :=
    let (reply, after, files) := service.execute order state.1 workspace.files
    (reply, (after, state.2 + 1), ⟨files, workspace.pauseRequested || pauses state.2⟩)

/-- All that a run depends on, but the pauses. -/
structure Undertaking (σ : Type) where
  manifest : Manifest
  service : FileService σ
  sandbox : String
  maxSteps : Option Nat
  snapshotFiles : List String

/-- The engine that a run is driven by while pauses are requested. -/
def Undertaking.engine (work : Undertaking σ) (pauses : Nat → Bool) : Engine (σ × Nat) :=
  ⟨work.manifest, work.service.interrupted pauses, work.sandbox, work.maxSteps, work.snapshotFiles⟩

/-- No pauses at all. -/
def never : Nat → Bool := fun _ => false

/-- A run overlooks the files for snapshots, and the file at `path` for its state, if
there is one: files that are alike are the same to the artifacts of declared steps and
to executors, and those that have been written make no difference. Files that the run
cannot meet need not be alike to themselves. -/
structure Undertaking.Overlooks (work : Undertaking σ) (path : Option String)
    (alike : FileSystem → FileSystem → Prop) : Prop where
  symm : ∀ {files others}, alike files others → alike others files
  trans : ∀ {files others further}, alike files others → alike others further →
    alike files further
  snapshots : ∀ (snapshot : Snapshot) (workspace : Workspace),
    alike workspace.files workspace.files →
      alike (snapshot.keep work.snapshotFiles workspace).files workspace.files
  states : ∀ file, path = some file → ∀ (state : RunState) (workspace stored : Workspace),
    alike workspace.files workspace.files →
      (state.store file).run workspace = (.ok (), stored) → alike stored.files workspace.files
  artifacts : ∀ {files others}, alike files others → ∀ id step, work.manifest.step id = .ok step →
    ∀ artifact ∈ step.artifacts,
      files.readArtifact work.sandbox artifact = others.readArtifact work.sandbox artifact
  executors : ∀ {files others}, alike files others → ∀ order state,
    (work.service.execute order state files).1 = (work.service.execute order state others).1 ∧
      (work.service.execute order state files).2.1 =
        (work.service.execute order state others).2.1 ∧
      alike (work.service.execute order state files).2.2
        (work.service.execute order state others).2.2

/-- A session in which pauses are requested, beside one in which none is. -/
structure Alongside (alike : FileSystem → FileSystem → Prop) (session quiet : Session (σ × Nat)) :
    Prop where
  run : session.run = quiet.run
  service : session.service = quiet.service
  dispatched : session.dispatched = quiet.dispatched
  published : session.published.filter (·.status ≠ .paused) = quiet.published
  files : alike session.workspace.files quiet.workspace.files
  unasked : quiet.workspace.pauseRequested = false

variable {work : Undertaking σ} {path : Option String} {alike : FileSystem → FileSystem → Prop}
  {pauses : Nat → Bool} {session quiet next final : Session (σ × Nat)}
  {result : Except RunError Completion} {fuel : Nat}

theorem Undertaking.Overlooks.left (overlooks : work.Overlooks path alike)
    {files others : FileSystem} (same : alike files others) : alike files files :=
  overlooks.trans same (overlooks.symm same)

private theorem Undertaking.Overlooks.right (overlooks : work.Overlooks path alike)
    {files others : FileSystem} (same : alike files others) : alike others others :=
  overlooks.trans (overlooks.symm same) same

private theorem Undertaking.Overlooks.readArtifacts (overlooks : work.Overlooks path alike)
    {files others : FileSystem} (same : alike files others) {id : StepId} {step : Step}
    (found : work.manifest.step id = .ok step) :
    step.readArtifacts id work.sandbox files = step.readArtifacts id work.sandbox others := by
  have each := overlooks.artifacts same id step found
  unfold Step.readArtifacts
  generalize step.artifacts = artifacts at each ⊢
  induction artifacts with
  | nil => rfl
  | cons artifact rest ih =>
    rw [List.mapM_cons, List.mapM_cons, each artifact List.mem_cons_self,
      ih fun other member => each other (List.mem_cons_of_mem _ member)]

/-- Both sessions ask for the same order. -/
theorem Undertaking.Overlooks.dispatch (overlooks : work.Overlooks path alike)
    (along : Alongside alike session quiet) :
    (work.engine pauses).dispatch session.run session.service session.workspace.files =
      (work.engine never).dispatch quiet.run quiet.service quiet.workspace.files := by
  unfold Engine.dispatch
  rw [along.run, along.service]
  cases quiet.run.current with
  | none => rfl
  | some id =>
    cases found : work.manifest.step id with
    | error error => simp only [Undertaking.engine, found, bind, Except.bind]
    | ok step =>
      have read := overlooks.readArtifacts along.files found
      simp only [Undertaking.engine, found, bind, Except.bind, read]
      rfl

/-- What comes of an order: its answer, one call more, and maybe a request to pause. -/
theorem Undertaking.execute_eq {order : WorkOrder} :
    (work.engine pauses).execute session order =
      ((work.service.execute order session.service.1 session.workspace.files).1,
        { session with
          service := ((work.service.execute order session.service.1 session.workspace.files).2.1,
            session.service.2 + 1)
          workspace := ⟨(work.service.execute order session.service.1 session.workspace.files).2.2,
            session.workspace.pauseRequested || pauses session.service.2⟩
          dispatched := session.dispatched ++ [order] }) := rfl

/-- An order is answered in both sessions alike. -/
theorem Undertaking.Overlooks.execute (overlooks : work.Overlooks path alike)
    (along : Alongside alike session quiet) {order : WorkOrder}
    {reply : Except Failure ExecutorResult} {later : Session (σ × Nat)}
    (executed : (work.engine pauses).execute session order = (reply, later)) :
    ∃ quietly, (work.engine never).execute quiet order = (reply, quietly) ∧
      Alongside alike later quietly := by
  obtain ⟨answer, after, files⟩ := overlooks.executors along.files order quiet.service.1
  rw [Undertaking.execute_eq, along.service] at executed
  cases executed
  refine ⟨_, Prod.ext answer.symm rfl, along.run, ?_, ?_, along.published, files, ?_⟩
  · exact Prod.ext after rfl
  · exact congrArg (· ++ [order]) along.dispatched
  · exact Bool.or_eq_false_iff.mpr ⟨along.unasked, rfl⟩

/-- Sessions side by side stay so when their states are replaced alike. -/
theorem Alongside.withRun (along : Alongside alike session quiet) (run : RunState) :
    Alongside alike { session with run } { quiet with run } :=
  ⟨rfl, along.service, along.dispatched, along.published, along.files, along.unasked⟩

/-- An iteration comes to the same in both sessions. -/
theorem Undertaking.Overlooks.runStep (overlooks : work.Overlooks path alike)
    (along : Alongside alike session quiet) {result : Except RunError Unit}
    {later : Session (σ × Nat)} (ran : (work.engine pauses).runStep session = (result, later)) :
    ∃ quietly, (work.engine never).runStep quiet = (result, quietly) ∧
      Alongside alike later quietly := by
  have same : (work.engine pauses).dispatch _ _ _ = _ := overlooks.dispatch along
  cases Engine.iterates ran with
  | undispatched failed =>
    exact ⟨quiet, (Engine.Iterates.undispatched (same ▸ failed)).runStep, along⟩
  | unanswered dispatched failed =>
    obtain ⟨quietly, replied, beside⟩ := overlooks.execute along failed
    rw [along.run]
    exact ⟨_, (Engine.Iterates.unanswered (same ▸ dispatched) replied).runStep, beside.withRun _⟩
  | unrouted dispatched replied failed =>
    obtain ⟨quietly, replied, beside⟩ := overlooks.execute along replied
    rw [along.run] at failed ⊢
    exact ⟨_, (Engine.Iterates.unrouted (same ▸ dispatched) replied failed).runStep,
      beside.withRun _⟩
  | advanced dispatched replied followed =>
    obtain ⟨quietly, replied, beside⟩ := overlooks.execute along replied
    rw [along.run] at followed
    exact ⟨_, (Engine.Iterates.advanced (same ▸ dispatched) replied followed).runStep,
      beside.withRun _⟩

/-- Writing snapshots asks for no pause. -/
theorem Snapshot.keep_pauseRequested (snapshot : Snapshot) (paths : List String)
    (workspace : Workspace) :
    (snapshot.keep paths workspace).pauseRequested = workspace.pauseRequested := by
  unfold Snapshot.keep
  induction paths generalizing workspace with
  | nil => rfl
  | cons path rest ih => rw [List.foldl_cons, ih]; rfl

/-- Both sessions show the same state, unless it is that of a pause. -/
theorem Undertaking.Overlooks.publish (overlooks : work.Overlooks path alike)
    (along : Alongside alike session quiet) {status : RunStatus} (unpaused : status ≠ .paused) :
    Alongside alike ((work.engine pauses).publish session status)
      ((work.engine never).publish quiet status) where
  run := along.run
  service := along.service
  dispatched := along.dispatched
  published := by
    have kept : ((work.engine pauses).snapshot session status).status ≠ .paused := unpaused
    have same : (work.engine pauses).snapshot session status =
        (work.engine never).snapshot quiet status := by
      rw [Engine.snapshot, Engine.snapshot, along.run]
      rfl
    simp only [Engine.publish, List.filter_append, along.published, ← same]
    simp [kept]
  files := by
    have shown := overlooks.snapshots ((work.engine pauses).snapshot session status) _
      (overlooks.left along.files)
    have quietly := overlooks.snapshots ((work.engine never).snapshot quiet status) _
      (overlooks.right along.files)
    exact overlooks.trans shown (overlooks.trans along.files (overlooks.symm quietly))
  unasked := (Snapshot.keep_pauseRequested ..).trans along.unasked

/-- The snapshot of a pause is all that a pause adds. -/
theorem Undertaking.Overlooks.publish_paused (overlooks : work.Overlooks path alike)
    (along : Alongside alike session quiet) :
    Alongside alike ((work.engine pauses).publish session .paused) quiet where
  run := along.run
  service := along.service
  dispatched := along.dispatched
  published := by
    have dropped : ((work.engine pauses).snapshot session .paused).status = .paused := rfl
    simpa [Engine.publish, dropped] using along.published
  files := overlooks.trans (overlooks.snapshots _ _ (overlooks.left along.files)) along.files
  unasked := along.unasked

/-- A turn that is not a pause is taken in both sessions. -/
theorem Undertaking.Overlooks.go (overlooks : work.Overlooks path alike)
    (along : Alongside alike session quiet)
    (turned : (work.engine pauses).turn session = .go next) :
    ∃ quietly, (work.engine never).turn quiet = .go quietly ∧ Alongside alike next quietly := by
  obtain ⟨current, later, waiting, _, below, ran, rfl⟩ := Engine.turn_eq_go_iff.mp turned
  obtain ⟨quietly, ran, beside⟩ := overlooks.runStep along ran
  rw [along.run] at waiting below
  exact ⟨_, Engine.turn_eq_go_iff.mpr ⟨current, quietly, waiting, along.unasked, below, ran, rfl⟩,
    overlooks.publish beside nofun⟩

/-- A run that stops pauses, and the other does not move; or both stop alike. -/
theorem Undertaking.Overlooks.stop (overlooks : work.Overlooks path alike)
    (along : Alongside alike session quiet)
    (turned : (work.engine pauses).turn session = .stop result final) :
    (∃ place, result = .ok (.paused place) ∧ final.run.current = some place ∧
        session.workspace.pauseRequested = true ∧ Alongside alike final quiet) ∨
      (∀ place, result ≠ .ok (.paused place)) ∧ ∃ quietly,
        (work.engine never).turn quiet = .stop result quietly ∧ Alongside alike final quietly := by
  cases Engine.turn_eq_stop_iff.mp turned with
  | completed ended =>
    refine Or.inr ⟨nofun, ?_⟩
    rw [along.run] at ended ⊢
    exact ⟨_, Engine.turn_eq_stop_iff.mpr (.completed ended), overlooks.publish along nofun⟩
  | paused waiting requested =>
    exact Or.inl ⟨_, rfl, waiting, requested, overlooks.publish_paused along⟩
  | limited waiting _ reached =>
    refine Or.inr ⟨nofun, quiet, ?_, along⟩
    rw [along.run] at waiting reached
    exact Engine.turn_eq_stop_iff.mpr (.limited waiting along.unasked reached)
  | failed waiting _ below ran =>
    obtain ⟨quietly, ran, beside⟩ := overlooks.runStep along ran
    refine Or.inr ⟨nofun, quietly, ?_, beside⟩
    rw [along.run] at waiting below
    exact Engine.turn_eq_stop_iff.mpr (.failed waiting along.unasked below ran)

theorem Undertaking.Overlooks.passes (overlooks : work.Overlooks path alike) {count : Nat}
    {last : Session (σ × Nat)} (passes : (work.engine pauses).Passes count session last)
    (along : Alongside alike session quiet) :
    ∃ quietly, (work.engine never).Passes count quiet quietly ∧ Alongside alike last quietly := by
  induction passes generalizing quiet with
  | none => exact ⟨quiet, .none quiet, along⟩
  | more turned _ ih =>
    obtain ⟨quietly, turned, beside⟩ := overlooks.go along turned
    obtain ⟨far, passes, along⟩ := ih beside
    exact ⟨far, .more turned passes, along⟩

/-- Where the quiet run ends within its fuel, so does a call that goes on beside it. -/
theorem Undertaking.Overlooks.drive_ends (overlooks : work.Overlooks path alike)
    (along : Alongside alike session quiet)
    {outcome : Except RunError Completion × Session (σ × Nat)}
    (driven : (work.engine never).drive fuel quiet = some outcome) :
    ∃ later, (work.engine pauses).drive fuel session = some later := by
  induction fuel generalizing session quiet with
  | zero => cases driven
  | succ fuel ih =>
    rw [Engine.drive_succ]
    cases turned : (work.engine pauses).turn session with
    | stop result final => exact ⟨(result, final), rfl⟩
    | go next =>
      obtain ⟨quietly, turned, beside⟩ := overlooks.go along turned
      rw [Engine.drive_succ, turned] at driven
      exact ih beside driven

end StepGraph
