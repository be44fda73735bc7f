import StepGraph.Proofs.Engine.Persistence

/-! The file that holds the latest snapshot. Each publication replaces it, so that behind a turn
that goes on, and at the end of a run or at a pause, it holds the snapshot that was published
last, if it could be written. A call that fails publishes nothing behind its last iteration: the
executor of that iteration is the only one that works on the files after the last snapshot. -/
namespace StepGraph

variable {σ : Type} {engine : Engine σ} {session final : Session σ} {snapshot : Snapshot}
  {status : RunStatus} {path : String} {result : Except RunError Completion}

/-- The snapshot can be written into that file. -/
def Snapshot.StorableAt (snapshot : Snapshot) (path : String) (files : FileSystem) : Prop :=
  ((Workspace.Task.replace path snapshot.fileText).run ⟨files, false⟩).1 = .ok ()

instance {files : FileSystem} : Decidable (snapshot.StorableAt path files) :=
  inferInstanceAs (Decidable (_ = _))

/-- The snapshot can be read from that file. -/
def Snapshot.ReadableAt (snapshot : Snapshot) (path : String) (files : FileSystem) : Prop :=
  ∃ text, files.readText path = .ok text ∧ Snapshot.ofFileText? text = some snapshot

/-- A file that takes a snapshot in holds its text. -/
theorem Snapshot.read_of_keep {workspace : Workspace}
    (storable : snapshot.StorableAt path workspace.files) :
    (snapshot.keep [path] workspace).files.read path = .ok snapshot.fileText.toUTF8 := by
  have wrote : (Workspace.Task.replace path snapshot.fileText).run workspace =
      (.ok (), snapshot.keep [path] workspace) := Prod.ext storable rfl
  exact FileSystem.read_of_replace (FileSystem.replace_of_run wrote)

/-- The snapshot that was published last shows where the session stands, and the file holds it. -/
def Engine.ShowsLast (engine : Engine σ) (path : String) (session : Session σ) : Prop :=
  ∀ last, session.published.getLast? = some last →
    (∃ status, last = engine.snapshot session status) ∧
      session.workspace.files.read path = .ok last.fileText.toUTF8

private theorem Engine.showsLast_publish (only : engine.snapshotFiles = [path])
    (storable : (engine.snapshot session status).StorableAt path session.workspace.files) :
    engine.ShowsLast path (engine.publish session status) := by
  intro last shown
  have same : last = engine.snapshot session status := by
    simp only [Engine.publish, List.getLast?_append, List.getLast?_singleton] at shown
    exact (Option.some.inj shown).symm
  subst same
  refine ⟨⟨status, rfl⟩, ?_⟩
  simp only [Engine.publish, only]
  exact Snapshot.read_of_keep storable

/-- An iteration that fails leaves the last snapshot as it was published. -/
theorem Engine.showsLast_of_failure {error : RunError} (shows : engine.ShowsLast path session)
    (stopped : engine.turn session = .stop (.error error) final)
    (untouched : final.workspace.files.read path = session.workspace.files.read path) :
    engine.ShowsLast path final := by
  have settles : engine.Settles session (.error error) final := Engine.settles_of_stop stopped
  have unshown : final.published = session.published := by
    rw [settles.published, Engine.closing, List.append_nil]
  intro last shown
  rw [unshown] at shown
  obtain ⟨⟨status, rfl⟩, held⟩ := shows last shown
  refine ⟨⟨status, ?_⟩, untouched.trans held⟩
  -- Snapshots do not show the history, and no more of the state has changed.
  unfold Engine.snapshot
  rw [settles.run]
  rfl

/-- What becomes of the loop from a session on when every snapshot can be written into the file. -/
inductive Engine.Writes (engine : Engine σ) (path : String) :
    Session σ → Except RunError Completion → Session σ → Prop
  | stop {session final : Session σ} {result : Except RunError Completion}
      (stopped : engine.turn session = .stop result final)
      (storable : ∀ shown ∈ engine.closing final result,
        shown.StorableAt path session.workspace.files) :
      Engine.Writes engine path session result final
  | go {session later final : Session σ} {result : Except RunError Completion}
      (goes : engine.turn session = .go (engine.publish later .running))
      (ran : engine.runStep session = (.ok (), later))
      (storable : (engine.snapshot later .running).StorableAt path later.workspace.files)
      (rest : Engine.Writes engine path (engine.publish later .running) result final) :
      Engine.Writes engine path session result final

/-- If the loop fails, its last iteration leaves the file as it was. -/
def Engine.Spares (engine : Engine σ) (path : String) (session final : Session σ) : Prop :=
  ∀ count last error, engine.Passes count session last →
    engine.turn last = .stop (.error error) final →
      final.workspace.files.read path = last.workspace.files.read path

/-- What holds of the file when the loop begins holds of it when the loop has stopped. -/
theorem Engine.Writes.showsLast (writes : engine.Writes path session result final)
    (only : engine.snapshotFiles = [path]) (spares : engine.Spares path session final)
    (shows : engine.ShowsLast path session) : engine.ShowsLast path final := by
  induction writes with
  | @stop session final result stopped storable =>
    cases result with
    | error error =>
      have untouched := spares 0 session error (.none session) stopped
      exact Engine.showsLast_of_failure shows stopped untouched
    | ok completion =>
      cases Engine.turn_eq_stop_iff.mp stopped with
      | completed =>
        exact Engine.showsLast_publish only (storable _ (List.mem_singleton_self _))
      | paused =>
        exact Engine.showsLast_publish only (storable _ (List.mem_singleton_self _))
  | go goes _ storable _ ih =>
    refine ih ?_ (Engine.showsLast_publish only storable)
    exact fun count last error passes => spares (count + 1) last error (.more goes passes)

end StepGraph
