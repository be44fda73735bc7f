import StepGraph.Executor.Scripted
import StepGraph.Proofs.Artifact.Confinement
import StepGraph.Proofs.Context.Layers
import StepGraph.Proofs.Engine.Atomicity
import StepGraph.Proofs.FileSystem.Absence

/-! Artifacts that are missing. Where nothing is in the way, an artifact that is not there is read
as one without content, and the step is told that it is empty. The error of a walk that stops at
a file is another than that of one that stops at nothing, and only the latter is taken for a
missing artifact: so a path that goes on behind a file ends the run, though nothing is there
either. -/
namespace StepGraph

open FileSystem (Legal Obstructs)

variable {σ : Type} {engine : Engine σ} {session later : Session σ} {files : FileSystem}
  {sandbox path : String} {id : StepId} {failure : Failure} {error : IoError}

private theorem Artifact.join_ne_empty (fit : ¬Artifact.Unfit path) :
    Path.join sandbox path ≠ "" := by
  intro empty
  have nothing : (Path.join sandbox path).toList = [] := by rw [empty]; rfl
  have shape : (sandbox = "" ∧ _) ∨ _ := Path.toList_join (Artifact.isAbsolute_of_fit fit)
  rcases shape with ⟨_, whole⟩ | ⟨_, front, _, whole⟩
  · obtain rfl : path = "" := String.toList_inj.mp (whole.symm.trans nothing)
    exact fit (Or.inl rfl)
  · rw [nothing] at whole
    exact absurd whole.symm (by simp)

/-- A fit path fails for what is in its way, and for nothing else. -/
theorem readArtifact_eq_error_iff (fit : ¬Artifact.Unfit path)
    (legal : Legal (Path.join sandbox path)) :
    files.readArtifact sandbox path = .error failure ↔
      ∃ error, files.Obstructs (Path.join sandbox path) error ∧
        failure = .refused (.readArtifact (Path.join sandbox path)) error := by
  have filled : Path.join sandbox path ≠ "" := Artifact.join_ne_empty fit
  rw [readArtifact_eq_error fit]
  constructor
  · rintro ⟨error, unread, present, rfl⟩
    have obstructs := FileSystem.obstructs_of_read unread legal filled
    exact ⟨error, obstructs.resolve_left present, rfl⟩
  · rintro ⟨error, obstructs, rfl⟩
    refine ⟨error, obstructs.read legal filled, ?_, rfl⟩
    cases obstructs <;> nofun

/-- Where nothing is, an artifact that is read has no content. -/
theorem eq_none_of_missing {artifact : Artifact}
    (missing : files.exists? (Path.join sandbox path) = false)
    (read : files.readArtifact sandbox path = .ok artifact) : artifact = ⟨path, none⟩ := by
  obtain ⟨_, ⟨content, held, _⟩ | ⟨_, same⟩⟩ := readArtifact_eq_ok.mp read
  · obtain ⟨error, lost⟩ := FileSystem.exists?_eq_false_iff.mp missing
    rw [FileSystem.read_of_locate lost] at held
    cases held
  · exact same

/-- An order that cannot be made because of an artifact is one for a step that names it. -/
theorem Engine.unread_of_dispatch {state : RunState} {service : σ}
    (failed : engine.dispatch state service files = .error (.artifactFailed id path failure)) :
    ∃ step, state.current = some id ∧ engine.manifest.step id = .ok step ∧
      path ∈ step.artifacts ∧ files.readArtifact engine.sandbox path = .error failure := by
  rcases Engine.dispatch_eq_error failed with ⟨_, impossible⟩ | ⟨current, waiting, reasons⟩
  · cases impossible
  rcases reasons with missing | ⟨step, found, unread⟩ | ⟨_, _, _, unbuilt⟩
  · exact (Manifest.undeclared_of_step missing).elim
  · obtain ⟨place, member, _, refused, same⟩ := Step.readArtifacts_eq_error unread
    cases same
    exact ⟨step, waiting, found, member, refused⟩
  · exact (Manifest.undeclared_of_context unbuilt).elim

/-- An iteration fails over an artifact only when that cannot be read for its step. -/
theorem Engine.unread_of_runStep
    (failed : engine.runStep session = (.error (.artifactFailed id path failure), later)) :
    ∃ step, session.run.current = some id ∧ engine.manifest.step id = .ok step ∧
      path ∈ step.artifacts ∧
        session.workspace.files.readArtifact engine.sandbox path = .error failure := by
  cases Engine.iterates failed with
  | undispatched undispatched => exact Engine.unread_of_dispatch undispatched
  | unrouted _ _ unrouted =>
    exact absurd trivial (RunState.not_precedesAnswer_of_advance unrouted)

/-- The artifact of a path has its entry in the context of a step that names it. -/
theorem Engine.artifact_mem_context {dispatch : Dispatch} {state : RunState} {service : σ}
    (dispatched : engine.dispatch state service files = .ok dispatch)
    (member : path ∈ dispatch.step.artifacts) :
    ∃ artifact, files.readArtifact engine.sandbox path = .ok artifact ∧
      ∀ entry ∈ artifactLayer [artifact], entry ∈ dispatch.order.context := by
  obtain ⟨id, step, artifacts, context, _, _, read, built, rfl⟩ :=
    Engine.dispatch_eq_ok.mp dispatched
  obtain ⟨artifact, among, held⟩ := Step.readArtifact_of_mem read member
  refine ⟨artifact, held, fun entry told => ?_⟩
  obtain ⟨step, _, inherited, _, _, _, rfl⟩ := Manifest.context_eq_ok.mp built
  obtain ⟨same, single, told⟩ := List.mem_map.mp told
  cases List.mem_singleton.mp single
  have layer : entry ∈ artifactLayer artifacts := told ▸ List.mem_map_of_mem among
  exact List.mem_append_right _ (List.mem_append_left _ (List.mem_append_right _ layer))

/-- Under a fit path at which nothing is, an artifact without content is read unless the path is
too long or barred by a file; the step is then told that it is empty. A run ends because of an
artifact only when its path is unfit or not taken at all, or when something is in the way: that
is a directory at the path, or one of those two reasons, for which nothing need be at the path. -/
theorem missing_artifacts_are_empty (engine : Engine σ) (session : Session σ) :
    (∀ (files : FileSystem) (sandbox path : String), ¬Artifact.Unfit path →
      Legal (Path.join sandbox path) → files.exists? (Path.join sandbox path) = false →
        (∀ failure, files.readArtifact sandbox path = .error failure ↔
          ∃ error, files.Obstructs (Path.join sandbox path) error ∧
            failure = .refused (.readArtifact (Path.join sandbox path)) error) ∧
          ((∀ error, ¬files.Obstructs (Path.join sandbox path) error) →
            files.readArtifact sandbox path = .ok ⟨path, none⟩)) ∧
    (∀ dispatch,
      engine.dispatch session.run session.service session.workspace.files = .ok dispatch →
        ∀ path ∈ dispatch.step.artifacts,
          session.workspace.files.exists? (Path.join engine.sandbox path) = false →
            ⟨"artifact:" ++ path, Kind.artifact, ""⟩ ∈ dispatch.order.context) ∧
    ∀ id path failure later,
      engine.runStep session = (.error (.artifactFailed id path failure), later) →
        Artifact.Unfit path ∨ ¬Legal (Path.join engine.sandbox path) ∨
          ∃ error, session.workspace.files.Obstructs (Path.join engine.sandbox path) error ∧
            failure = .refused (.readArtifact (Path.join engine.sandbox path)) error := by
  refine ⟨?_, ?_, ?_⟩
  · intro files sandbox path fit legal missing
    refine ⟨fun failure => readArtifact_eq_error_iff fit legal, fun clear => ?_⟩
    cases read : files.readArtifact sandbox path with
    | error failure =>
      obtain ⟨error, obstructs, _⟩ := (readArtifact_eq_error_iff fit legal).mp read
      exact absurd obstructs (clear error)
    | ok artifact => rw [eq_none_of_missing missing read]
  · intro dispatch dispatched path member missing
    obtain ⟨artifact, read, told⟩ := Engine.artifact_mem_context dispatched member
    cases eq_none_of_missing missing read
    exact told _ List.mem_cons_self
  · intro id path failure later failed
    obtain ⟨_, _, _, _, unread⟩ := Engine.unread_of_runStep failed
    by_cases unfit : Artifact.Unfit path
    · exact Or.inl unfit
    by_cases legal : Legal (Path.join engine.sandbox path)
    · exact Or.inr (Or.inr ((readArtifact_eq_error_iff unfit legal).mp unread))
    · exact Or.inr (Or.inl legal)

/-- An engine whose only step reads one artifact. -/
def readingEngine (path : String) : Engine Replies where
  manifest := .small [("Main", [("A", ⟨"tool", none, [], [path], [⟨"SUCCESS", "RETURN"⟩]⟩)])]
  service := Replies.service
  sandbox := "/work"
  maxSteps := none
  snapshotFiles := []

/-- A run of it is about to begin in a sandbox with one file. -/
def notedSession : Session Replies where
  service := ⟨[⟨false, none, .append [], "SUCCESS"⟩], []⟩
  workspace := ⟨(FileSystem.fresh ["work"]).put ["work", "notes"] (.file ⟨#[]⟩ .plain), false⟩
  run := .startingAt "run-1" ⟨"Main", "A"⟩
  dispatched := []
  published := []

/-- An artifact is empty when the directory is missing in which it should be. -/
theorem artifact_of_missing_directory_is_empty :
    notedSession.workspace.files.readArtifact "/work" "drafts/plan" = .ok ⟨"drafts/plan", none⟩ ∧
      ∃ dispatch, (readingEngine "drafts/plan").dispatch notedSession.run notedSession.service
          notedSession.workspace.files = .ok dispatch ∧
        ⟨"artifact:" ++ "drafts/plan", Kind.artifact, ""⟩ ∈ dispatch.order.context := by
  obtain ⟨reads, tells, _⟩ :=
    missing_artifacts_are_empty (readingEngine "drafts/plan") notedSession
  have fit : ¬Artifact.Unfit "drafts/plan" := by decide
  have legal : Legal (Path.join "/work" "drafts/plan") := ⟨by decide, by decide⟩
  have missing :
      notedSession.workspace.files.exists? (Path.join "/work" "drafts/plan") = false := by decide
  have clear (error : IoError) :
      ¬notedSession.workspace.files.Obstructs (Path.join "/work" "drafts/plan") error := by
    intro obstructs
    have unread : notedSession.workspace.files.read (Path.join "/work" "drafts/plan") =
        .error .notFound := by decide
    cases unread.symm.trans (obstructs.read legal (by decide))
    cases obstructs
  obtain ⟨dispatch, dispatched⟩ : ∃ dispatch, (readingEngine "drafts/plan").dispatch
      notedSession.run notedSession.service notedSession.workspace.files = .ok dispatch := ⟨_, rfl⟩
  have names : "drafts/plan" ∈ dispatch.step.artifacts := by
    cases dispatched
    decide
  exact ⟨(reads _ _ _ fit legal missing).2 clear, dispatch, dispatched,
    tells dispatch dispatched _ names missing⟩

/-- A path that goes on behind a file leads to nothing, and yet it ends the run. -/
theorem artifact_behind_file_ends_run :
    ¬Artifact.Unfit "notes/plan" ∧ Legal (Path.join "/work" "notes/plan") ∧
      notedSession.workspace.files.exists? (Path.join "/work" "notes/plan") = false ∧
      notedSession.workspace.files.readArtifact "/work" "notes/plan" =
        .error (.refused (.readArtifact "/work/notes/plan") .notADirectory) ∧
      ((readingEngine "notes/plan").runStep notedSession).1 =
        .error (.artifactFailed ⟨"Main", "A"⟩ "notes/plan"
          (.refused (.readArtifact "/work/notes/plan") .notADirectory)) :=
  ⟨by decide, ⟨by decide, by decide⟩, by decide, by decide, by decide⟩

end StepGraph
