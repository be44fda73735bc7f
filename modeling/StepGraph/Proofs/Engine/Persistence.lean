import StepGraph.Proofs.Engine.History
import StepGraph.Proofs.Engine.Publication
import StepGraph.Proofs.Engine.Safety
import StepGraph.Proofs.Snapshot

/-! What a run writes reads back. The ids in its state are made of texts and names that read back,
and those in the graph are the declared steps, whose names have been checked before the run began.
So the file of a state leads back to the state, and the text of a snapshot to the snapshot, as
long as the iterations can be counted in a word. -/
namespace StepGraph

/-- The steps that an open call names. -/
def Frame.ids (frame : Frame) : List StepId := frame.caller :: frame.resume.toList

/-- The steps between which a transition leads. -/
def TransitionRecord.ids (record : TransitionRecord) : List StepId :=
  record.source :: record.target.toList

/-- All occurrences of ids in a state. -/
def RunState.ids (state : RunState) : List StepId :=
  state.current.toList ++ state.stack.flatMap Frame.ids ++ state.completed ++
    state.lastTransition.toList.flatMap TransitionRecord.ids ++ state.log.map LogEntry.step

private theorem Frame.ReadsBack.ids {frame : Frame} (back : frame.ReadsBack) {id : StepId}
    (occurs : id ∈ frame.ids) : id.readsBack = true := by
  rcases List.mem_cons.mp occurs with rfl | resumes
  · exact back.caller
  · exact back.resume id (Option.mem_toList.mp resumes)

private theorem TransitionRecord.ReadsBack.ids {record : TransitionRecord} (back : record.ReadsBack)
    {id : StepId} (occurs : id ∈ record.ids) : id.readsBack = true := by
  rcases List.mem_cons.mp occurs with rfl | follows
  · exact back.source
  · exact back.target id (Option.mem_toList.mp follows)

private theorem RunState.Legible.ids {state : RunState} (legible : state.Legible) {id : StepId}
    (occurs : id ∈ state.ids) : id.readsBack = true := by
  simp only [RunState.ids, List.mem_append, or_assoc] at occurs
  rcases occurs with next | opened | done | moved | logged
  · exact legible.place.next id (Option.mem_toList.mp next)
  · obtain ⟨frame, member, among⟩ := List.mem_flatMap.mp opened
    exact (legible.place.frame member).ids among
  · exact legible.completed id done
  · obtain ⟨record, member, among⟩ := List.mem_flatMap.mp moved
    exact (legible.lastTransition record (Option.mem_toList.mp member)).ids among
  · obtain ⟨entry, member, rfl⟩ := List.mem_map.mp logged
    exact legible.steps entry member

theorem Manifest.stepIds_shape (manifest : Manifest) :
    manifest.shape.stepIds = manifest.stepIds := by
  simp [Manifest.shape, GraphShape.stepIds, Manifest.stepIds, Group.shape, Step.shape,
    OrderedMap.keys, List.flatMap_map, Function.comp_def]

/-- The ids of a graph read back once the names of the manifest have been checked. -/
theorem Manifest.readsBack_of_shape {manifest : Manifest} (names : manifest.validateNames = .ok ())
    {id : StepId} (shown : id ∈ manifest.shape.stepIds) : id.readsBack = true := by
  rw [manifest.stepIds_shape, Manifest.mem_stepIds] at shown
  exact (StepId.ofParts_eq_ok (Manifest.ofParts_of_validateNames names shown)).2

/-- What keeps the files of a run readable: its ids read back, and the lists in its state are no
longer than it counts iterations. -/
structure RunState.Keepable (state : RunState) : Prop where
  legible : state.Legible
  completed : state.completed.length ≤ state.iterations
  logged : state.log.length ≤ state.iterations

private theorem RunState.keepable_startingAt {runId : String} {entry : StepId}
    (back : entry.readsBack = true) : (RunState.startingAt runId entry).Keepable :=
  ⟨RunState.legible_startingAt back, Nat.le_refl _, Nat.le_refl _⟩

/-- An iteration that adds to the lists of a state counts itself as well. -/
theorem maintains_keepable (manifest : Manifest) : manifest.Maintains RunState.Keepable := by
  intro σ engine session later result same keepable ran
  have legible := maintains_legible manifest same keepable.legible ran
  cases Engine.iterates ran with
  | undispatched => exact keepable
  | unanswered => exact keepable
  | unrouted => exact ⟨legible, keepable.completed, keepable.logged⟩
  | advanced _ _ followed =>
    obtain ⟨_, _, _, _, _, _, rfl⟩ := RunState.advance_eq_ok.mp followed
    refine ⟨legible, ?_, ?_⟩
    · simpa [RunState.advanced, RunState.answered] using keepable.completed
    · simpa [RunState.advanced, RunState.answered] using keepable.logged

/-- The state comes back from its file, if its counter is a word and the file can be written. -/
def RunState.Returns (state : RunState) : Prop :=
  state.iterations < Data.wordBound → ∀ path workspace stored,
    (state.store path).run workspace = (.ok (), stored) →
      RunState.load stored.files path = .ok state

private theorem RunState.Keepable.returns {state : RunState} (keepable : state.Keepable) :
    state.Returns := by
  intro word path workspace stored wrote
  exact RunState.load_of_store (keepable.legible.held word) wrote

/-- A snapshot comes back from its text, and from a file to which the text has been written. -/
structure Snapshot.Returns (snapshot : Snapshot) : Prop where
  text : Snapshot.ofFileText? snapshot.fileText = some snapshot
  file : ∀ path workspace stored,
    (Workspace.Task.replace path snapshot.fileText).run workspace = (.ok (), stored) →
      ∃ text, stored.files.readText path = .ok text ∧ Snapshot.ofFileText? text = some snapshot

private theorem Snapshot.Held.returns {snapshot : Snapshot} (held : snapshot.Held) :
    snapshot.Returns where
  text := Snapshot.ofFileText?_fileText held
  file path workspace stored wrote := by
    have read := FileSystem.read_of_replace (FileSystem.replace_of_run wrote)
    exact ⟨_, FileSystem.readText_of_read read, Snapshot.ofFileText?_fileText held⟩

namespace Stage

variable {stage : Stage} {manifest : Manifest} {group : String} {Given : ExecutorResult → Prop}

private theorem OfRun.keepable (ofRun : stage.OfRun manifest group Given) :
    stage.run.Keepable ∧ stage.turned.run.Keepable := by
  have here : stage.run.Keepable := ofRun.invariant
    (fun _ _ begins => RunState.keepable_startingAt (Manifest.readsBack_of_entryOf begins.entry))
    (maintains_keepable manifest)
  exact ⟨here, maintains_turned (maintains_keepable stage.manifest) here⟩

/-- What a turn publishes are snapshots of the state that it leaves. -/
theorem turned_published (stage : Stage) :
    ∃ shown, stage.turned.session.published = stage.session.published ++ shown ∧
      ∀ snapshot ∈ shown, ∃ status,
        snapshot = stage.turned.run.snapshot stage.manifest.shape status := by
  obtain ⟨engine, session⟩ := stage
  cases turn : engine.turn session with
  | go next =>
    rw [turned_of_go turn]
    have goes : engine.turn (session.amid session.workspace) = .go next := turn
    have iterated := Engine.iterated_of_go goes
    refine ⟨_, iterated.published, fun snapshot member => ⟨.running, ?_⟩⟩
    exact List.mem_singleton.mp member
  | stop result final =>
    rw [turned_of_stop turn]
    have stopped : engine.turn (session.amid session.workspace) = .stop result final := turn
    have settles := Engine.settles_of_stop stopped
    refine ⟨_, settles.published, fun snapshot member => ?_⟩
    rcases result with error | completed | paused
    · cases member
    · exact ⟨.completed, List.mem_singleton.mp member⟩
    · exact ⟨.paused, List.mem_singleton.mp member⟩

end Stage

/-- Everything that a run writes reads back, at every stage of it, before and after the turn that
is taken there, and whatever its executors answer: each id in its state parses from its own text,
the state comes back from its file, and the snapshots that the turn publishes come back from
theirs, as long as the iterations can be counted in a word. -/
theorem runs_read_back {stage : Stage} {manifest : Manifest} {group : String}
    (ofRun : stage.OfRun manifest group fun _ => True) :
    (∀ state ∈ [stage.run, stage.turned.run],
      (∀ id ∈ state.ids, StepId.parse id.text = .ok id) ∧ state.Returns) ∧
    (stage.turned.run.iterations < Data.wordBound →
      ∃ shown, stage.turned.session.published = stage.session.published ++ shown ∧
        ∀ snapshot ∈ shown, snapshot.Returns) := by
  obtain ⟨before, after⟩ := ofRun.keepable
  constructor
  · intro state among
    have keepable : state.Keepable := by
      simp only [List.mem_cons, List.not_mem_nil, or_false] at among
      rcases among with rfl | rfl
      · exact before
      · exact after
    exact ⟨fun id occurs => StepId.readsBack_iff.mp (keepable.legible.ids occurs), keepable.returns⟩
  · intro word
    obtain ⟨entry, begins⟩ := ofRun.begins
    obtain ⟨shown, published, taken⟩ := stage.turned_published
    refine ⟨shown, published, fun snapshot member => ?_⟩
    obtain ⟨status, rfl⟩ := taken snapshot member
    have graph : ∀ id ∈ stage.manifest.shape.stepIds, id.readsBack = true := by
      intro id among
      exact Manifest.readsBack_of_shape begins.names (ofRun.manifest_eq ▸ among)
    have held := (after.legible.held word).snapshot graph after.completed after.logged status
    exact held.returns

/-- After one step of two, the state comes back from its file and the snapshot from its text. -/
theorem relay_reads_back :
    (relayBegin (.append relayMessage)).OfRun relay "Main" (fun _ => True) ∧
      (∃ stored, ((relayNext (.append relayMessage)).run.store "/work/run.json").run
          (relayNext (.append relayMessage)).session.workspace = (.ok (), stored) ∧
        RunState.load stored.files "/work/run.json" =
          .ok (relayNext (.append relayMessage)).run) ∧
      ∃ snapshot, (relayNext (.append relayMessage)).session.published = [snapshot] ∧
        Snapshot.ofFileText? snapshot.fileText = some snapshot := by
  have ofRun : (relayBegin (.append relayMessage)).OfRun relay "Main" fun _ => True :=
    .start rfl relay_begins
  obtain ⟨states, snapshots⟩ := runs_read_back ofRun
  have word : (relayNext (.append relayMessage)).run.iterations < Data.wordBound := by
    decide
  have wrote : (((relayNext (.append relayMessage)).run.store "/work/run.json").run
      (relayNext (.append relayMessage)).session.workspace).1 = .ok () := by
    decide
  obtain ⟨_, returns⟩ := states _ (List.mem_cons_of_mem _ List.mem_cons_self)
  obtain ⟨shown, published, back⟩ := snapshots word
  have once : (relayNext (.append relayMessage)).session.published.length = 1 := by
    decide
  obtain ⟨snapshot, only⟩ := List.length_eq_one_iff.mp once
  have member : snapshot ∈ shown := by
    have same := published.symm.trans only
    rw [show (relayBegin (.append relayMessage)).session.published = [] from rfl,
      List.nil_append] at same
    exact same ▸ List.mem_singleton_self snapshot
  exact ⟨ofRun, ⟨_, Prod.ext wrote rfl, returns word _ _ _ (Prod.ext wrote rfl)⟩,
    snapshot, only, (back snapshot member).text⟩

end StepGraph
