import StepGraph.Proofs.CommandLine
import StepGraph.Proofs.Config
import StepGraph.Proofs.Engine.SnapshotFile
import StepGraph.Proofs.FileSystem.Beside

/-! What a command leaves in its two files. The state is stored when the call has ended, behind
all snapshots, so it is always there afterwards. Of the snapshots, the last is there unless
storing the state has displaced it: a configuration may name one place for both, or for snapshots
the place where the text of the state is written before it is moved. Nothing else takes it away
but an executor, in the iteration with which the call fails. -/
namespace StepGraph

/-- The text of a state is not that of a snapshot, which has to tell its status. -/
theorem RunState.Held.not_snapshot {state : RunState} (held : state.Held) :
    Snapshot.ofFileText? state.fileText = none := by
  rw [Snapshot.ofFileText?, RunState.fileText, Json.parse?_pretty held.fits, Option.bind_some]
  refine Option.eq_none_iff_forall_ne_some.mpr fun snapshot read => ?_
  obtain ⟨fields, named, read⟩ := Option.bind_eq_some_iff.mp read
  obtain ⟨_, named⟩ := Option.ite_none_right_eq_some.mp named
  cases named
  obtain ⟨_, _, read⟩ := Option.bind_eq_some_iff.mp read
  obtain ⟨_, status, _⟩ := Option.bind_eq_some_iff.mp read
  cases status

/-- Once a state has been stored, a snapshot is read from the file that held it exactly if the
file has not been displaced. -/
theorem Snapshot.readableAt_store_iff {state : RunState} {snapshot : Snapshot}
    {statePath path : String} {workspace stored : Workspace} (stateHeld : state.Held)
    (held : snapshot.Held) (kept : workspace.files.read path = .ok snapshot.fileText.toUTF8)
    (wrote : (state.store statePath).run workspace = (.ok (), stored)) :
    snapshot.ReadableAt path stored.files ↔ ¬ stored.files.Displaces statePath path := by
  have beside := FileSystem.beside_of_replace (FileSystem.replace_of_run wrote) kept
  constructor
  · rintro ⟨text, read, described⟩ (meets | ⟨name, named, meets⟩)
    · have same := Except.ok.inj (read.symm.trans (FileSystem.readText_of_read
        (beside.replaced meets)))
      rw [same, stateHeld.not_snapshot] at described
      cases described
    · have gone : stored.files.readText path = .error .notFound := by
        rw [FileSystem.readText, beside.gone name named meets]
        rfl
      cases read.symm.trans gone
  · intro undisplaced
    exact ⟨_, FileSystem.readText_of_read (beside.spared undisplaced),
      Snapshot.ofFileText?_fileText held⟩

/-- A word counts what a state counts and what is in its lists. -/
structure RunState.Countable (state : RunState) : Prop where
  iterations : state.iterations < Data.wordBound
  completed : state.completed.length < Data.wordBound
  logged : state.log.length < Data.wordBound

namespace CommandLine

section Commands

variable {launch : Launcher} {target : Target} {prepared : Preparation} {fuel nanoseconds : Nat}
  {runId path sandbox : String} {group : Option String} {outcome : Except RunError Completion}
  {final : Session Registry} {arguments : List String} {files : FileSystem} {config : Config}

/-- What a command asks of its engine. -/
def asking (runId : String) : Option String → Call
  | some group => .run runId group
  | none => .resume

/-- The session in which it asks. -/
def Preparation.session (prepared : Preparation) (files : FileSystem) :
    Option String → Session Registry
  | some _ => Engine.newSession prepared.registry ⟨files, false⟩
  | none => { Engine.newSession prepared.registry ⟨files, false⟩ with
      run := prepared.saved.getD .blank }

private theorem Preparation.call_eq : prepared.call fuel runId group files =
    prepared.engine.call fuel (prepared.session files group) (asking runId group) := by
  cases group <;> rfl

private theorem Saved.held {resumes : Bool} {state : RunState}
    (saved : Saved files path resumes (some state)) : state.Held := by
  cases saved with
  | again loaded => exact RunState.held_of_load loaded

/-- Every snapshot that the call publishes can be written into the file. -/
def Preparation.Writes (prepared : Preparation) (path runId : String) (group : Option String)
    (files : FileSystem) (outcome : Except RunError Completion) (final : Session Registry) : Prop :=
  ∀ begun, prepared.engine.opening (prepared.session files group) (asking runId group) =
    .ok begun → prepared.engine.Writes path begun outcome final

/-- If the call fails in an iteration, the executor of that iteration leaves the file alone. -/
def Preparation.Spares (prepared : Preparation) (path runId : String) (group : Option String)
    (files : FileSystem) (final : Session Registry) : Prop :=
  ∀ begun, prepared.engine.opening (prepared.session files group) (asking runId group) =
    .ok begun → prepared.engine.Spares path begun final

private theorem Preparation.showsLast_of_call (only : prepared.engine.snapshotFiles = [path])
    (called : prepared.call fuel runId group files = some (outcome, final))
    (writes : prepared.Writes path runId group files outcome final)
    (spares : prepared.Spares path runId group files final) :
    prepared.engine.ShowsLast path final := by
  have new : (prepared.session files group).published = [] := by cases group <;> rfl
  rw [Preparation.call_eq] at called
  cases opens : prepared.engine.opening (prepared.session files group) (asking runId group) with
  | error error =>
    rw [Engine.call_of_refused opens] at called
    cases called
    intro last shown
    rw [new] at shown
    cases shown
  | ok begun =>
    refine (writes begun opens).showsLast only (spares begun opens) fun last shown => ?_
    rw [Engine.restarted_of_opening opens] at shown
    rw [show (Session.restarted _ begun.run).published = [] from new] at shown
    cases shown

private theorem Preparation.heldWithin_of_call
    (saved : ∀ state, prepared.saved = some state → state.Held)
    (called : prepared.call fuel runId group files = some (outcome, final)) :
    final.run.HeldWithin := by
  have before : (prepared.session files group).run.Held := by
    have blank : RunState.blank.Held :=
      ⟨⟨nofun, nofun, nofun⟩, nofun, nofun, by decide, nofun⟩
    cases group with
    | some name => exact blank
    | none =>
      cases found : prepared.saved with
      | none =>
        simp only [Preparation.session, found]
        exact blank
      | some state =>
        simp only [Preparation.session, found]
        exact saved state found
  rw [Preparation.call_eq] at called
  cases opens : prepared.engine.opening (prepared.session files group) (asking runId group) with
  | error error =>
    rw [Engine.call_of_refused opens] at called
    cases called
    exact fun _ => before
  | ok begun =>
    rw [Engine.call_of_opening opens] at called
    have start : begun.run.HeldWithin := by
      have begins := Engine.opens_of_opening opens
      cases group with
      | some name =>
        cases begins with
        | run begins => exact fun _ => RunState.held_startingAt begins.entry
      | none =>
        cases begins with
        | resume => exact fun _ => before
    exact (Manifest.Maintains.drive (maintains_heldWithin _) start called).1

/-- A command whose state can be stored tells how its call has ended. -/
theorem perform_of_store {stored : Workspace}
    (asked : read arguments = .invocation (target.invocation group))
    (ready : prepare launch target group.isNone files = .ok prepared)
    (called : prepared.call fuel (Engine.generatedId nanoseconds) group files =
      some (outcome, final))
    (wrote : (final.run.store prepared.statePath).run final.workspace = (.ok (), stored)) :
    perform launch fuel nanoseconds arguments files =
      some (reportOf final.run.runId prepared.statePath outcome, stored.files) := by
  rw [perform_of_asked asked, carryOut_of_prepare ready]
  simp only [conduct, called, bind, Option.bind, wrote]
  rfl

/-- A command whose files can all be written leaves its state, from which it can be gone on, and
the snapshot that was published last is read exactly if storing the state has not displaced it:
its path leads neither to the place of the state nor to that of the name which is used meanwhile. -/
theorem commands_leave_state_and_snapshot
    (asked : read arguments = .invocation (target.invocation group))
    (entered : files.prepareSandbox target.sandbox = .ok sandbox)
    (configured : Config.load files (target.config.getD (Path.join sandbox defaultConfig)) =
      .ok config)
    (ready : prepare launch target group.isNone files = .ok prepared)
    (called : prepared.call fuel (Engine.generatedId nanoseconds) group files =
      some (outcome, final))
    (writes : prepared.Writes (Path.join sandbox config.snapshotPath)
      (Engine.generatedId nanoseconds) group files outcome final)
    (storable : final.run.StorableAt (Path.join sandbox config.runStatePath)
      final.workspace.files)
    (countable : final.run.Countable) :
    ∃ report after, perform launch fuel nanoseconds arguments files = some (report, after) ∧
      RunState.load after (Path.join sandbox config.runStatePath) = .ok final.run ∧
      (prepared.Spares (Path.join sandbox config.snapshotPath) (Engine.generatedId nanoseconds)
        group files final →
      ∀ last, final.published.getLast? = some last →
        (last.ReadableAt (Path.join sandbox config.snapshotPath) after ↔
          ¬ after.Displaces (Path.join sandbox config.runStatePath)
            (Path.join sandbox config.snapshotPath))) := by
  obtain ⟨_, manifest, _, _, saved, again, loaded, described, _, continued, rfl⟩ :=
    prepare_eq_ok.mp ready
  cases entered.symm.trans again
  cases configured.symm.trans described
  have names := Manifest.validateNames_of_load loaded
  have held : final.run.Held := by
    refine Preparation.heldWithin_of_call ?_ called countable.iterations
    rintro state rfl
    exact continued.held
  cases wrote : (final.run.store (Path.join sandbox config.runStatePath)).run final.workspace with
  | mk stored workspace =>
    have done : stored = .ok () := (congrArg Prod.fst wrote).symm.trans storable
    subst done
    have performed := perform_of_store asked ready called wrote
    refine ⟨_, _, performed, RunState.load_of_store held wrote, fun spares last shown => ?_⟩
    obtain ⟨⟨status, rfl⟩, kept⟩ :=
      Preparation.showsLast_of_call rfl called writes spares last shown
    have graph : ∀ id ∈ manifest.shape.stepIds, id.readsBack = true :=
      fun id among => Manifest.readsBack_of_shape names among
    have readable := held.snapshot_of_lengths graph countable.completed countable.logged status
    exact Snapshot.readableAt_store_iff held readable kept wrote

end Commands

/-- A run of two steps: where it leaves its files, and what the program of its second step takes
away. -/
structure Sweep where
  snapshotPath : String
  runStatePath : String
  place : Option Location

namespace Sweep

variable {sweep : Sweep}

/-- The outcome of the second step cannot be followed. -/
def manifest : Manifest :=
  .small [("Main", [
    ("A", .routing [⟨"SUCCESS", "JUMP:Main__B"⟩]), ("B", ⟨"broom", none, [], [], []⟩)])]

def config (sweep : Sweep) : Config where
  maxSteps := none
  snapshotPath := sweep.snapshotPath
  runStatePath := sweep.runStatePath
  executors := .ofList [
    ("tool", .command { CommandSettings.default with command := ["true"] }),
    ("broom", .command { CommandSettings.default with command := ["rm"] })]

/-- What is there when the run begins. -/
def files (sweep : Sweep) : FileSystem :=
  ((FileSystem.fresh ["work", ".graph-runner"]).put ["work", "flow.json"]
      (.file (Json.pretty manifest.toData ++ "\n").toUTF8 .plain)).put
    ["work", ".graph-runner", "config.toml"] (.file sweep.config.fileText.toUTF8 .plain)

/-- All programs end well, and `rm` takes away what is at the place. -/
def launcher (sweep : Sweep) : Launcher := fun program _ _ files =>
  (.ok ⟨[], [], .exited 0, false⟩,
    if program = "rm" then sweep.place.elim files files.remove else files)

def preparation (sweep : Sweep) : Preparation where
  engine := ⟨manifest, Registry.service sweep.launcher, "/work", none,
    [Path.join "/work" sweep.snapshotPath]⟩
  registry := (Registry.ofConfig sweep.config).toOption.getD .empty
  statePath := Path.join "/work" sweep.runStatePath
  saved := none

/-- The session in which the run begins. -/
def begun (sweep : Sweep) : Session Registry :=
  (sweep.preparation.session sweep.files (some "Main")).restarted
    (.startingAt (Engine.generatedId 0) ⟨"Main", "A"⟩)

/-- The session behind the first step. -/
def stepped (sweep : Sweep) : Session Registry := (sweep.preparation.engine.runStep sweep.begun).2

/-- The session when that has been shown. -/
def shown (sweep : Sweep) : Session Registry :=
  sweep.preparation.engine.publish sweep.stepped .running

/-- The session that is left. -/
def final (sweep : Sweep) : Session Registry := (sweep.preparation.engine.runStep sweep.shown).2

/-- The error with which the second step ends the run. -/
def error : RunError := .noTransition ⟨"Main", "B"⟩ "SUCCESS"

/-- What is there when the state has been stored. -/
def left (sweep : Sweep) : FileSystem :=
  ((sweep.final.run.store sweep.preparation.statePath).run sweep.final.workspace).2.files

/-- The snapshot that is published. -/
def snapshot (sweep : Sweep) : Snapshot :=
  sweep.preparation.engine.snapshot sweep.stepped .running

private theorem is_configured (valid : sweep.config.fault? = none) :
    Config.load sweep.files (Path.join "/work" defaultConfig) = .ok sweep.config :=
  Config.load_of_read valid rfl

private theorem is_prepared (valid : sweep.config.fault? = none) :
    prepare sweep.launcher strandedTarget (some "Main").isNone sweep.files =
      .ok sweep.preparation := by
  have entered : sweep.files.prepareSandbox "/work" = .ok "/work" := rfl
  have loaded : Manifest.load sweep.files "/work/flow.json" = .ok manifest :=
    Manifest.load_of_read (by decide) (by decide) Json.blank_lineBreak rfl
  exact prepare_eq_ok.mpr ⟨"/work", manifest, _, _, none, entered, loaded, is_configured valid,
    rfl, .anew, rfl⟩

private theorem turn_begun : sweep.preparation.engine.turn sweep.begun = .go sweep.shown := by
  have ran : sweep.preparation.engine.runStep sweep.begun = (.ok (), sweep.stepped) :=
    Prod.ext rfl rfl
  exact Engine.turn_eq_go_iff.mpr ⟨_, _, rfl, rfl, rfl, ran, rfl⟩

private theorem turn_shown :
    sweep.preparation.engine.turn sweep.shown = .stop (.error error) sweep.final := by
  have ran : sweep.preparation.engine.runStep sweep.shown = (.error error, sweep.final) :=
    Prod.ext rfl rfl
  exact Engine.turn_eq_stop_iff.mpr (.failed rfl rfl rfl ran)

private theorem opening_eq : sweep.preparation.engine.opening (sweep.preparation.session sweep.files
    (some "Main")) (asking (Engine.generatedId 0) (some "Main")) = .ok sweep.begun := rfl

private theorem is_called :
    sweep.preparation.call 2 (Engine.generatedId 0) (some "Main") sweep.files =
      some (.error error, sweep.final) := by
  rw [Preparation.call_eq, Engine.call_of_opening opening_eq, Engine.drive_succ, turn_begun]
  simp only [Engine.drive_succ, turn_shown]

private theorem writes_snapshot {path : String}
    (storable : sweep.snapshot.StorableAt path sweep.stepped.workspace.files) :
    sweep.preparation.Writes path (Engine.generatedId 0) (some "Main") sweep.files (.error error)
      sweep.final := by
  intro begun opened
  cases opening_eq.symm.trans opened
  exact .go turn_begun (Prod.ext rfl rfl) storable (.stop turn_shown nofun)

private theorem files_swept : sweep.final.workspace.files =
    sweep.place.elim sweep.shown.workspace.files sweep.shown.workspace.files.remove := rfl

private theorem spares_of_whole {path : String} (whole : sweep.place = none) :
    sweep.preparation.Spares path (Engine.generatedId 0) (some "Main") sweep.files sweep.final := by
  intro begun opened count last error passes stopped
  cases opening_eq.symm.trans opened
  cases passes with
  | none => cases turn_begun.symm.trans stopped
  | more turned rest =>
    cases turn_begun.symm.trans turned
    cases rest with
    | none => rw [files_swept, whole, Option.elim_none]
    | more again => cases turn_shown.symm.trans again

private theorem is_performed
    (valid : sweep.config.fault? = none)
    (storable : sweep.final.run.StorableAt sweep.preparation.statePath
      sweep.final.workspace.files) :
    perform sweep.launcher 2 0 strandedRun sweep.files =
      some (reportOf sweep.final.run.runId sweep.preparation.statePath (.error error),
        sweep.left) :=
  perform_of_store stranded_is_asked.2 (is_prepared valid) is_called (Prod.ext storable rfl)

private theorem shows_snapshot : sweep.final.published.getLast? = some sweep.snapshot := rfl

/-- The snapshot stays in its file if the file's name is none of those that the state uses. -/
theorem spares_snapshot {name last : String}
    (named : Path.fileName? sweep.preparation.statePath = some name)
    (again : Path.fileName? (Path.join "/work" sweep.snapshotPath) = some last)
    (notItself : last ≠ name) (notMeanwhile : last ≠ Disk.temporaryName name) :
    ¬ sweep.left.Displaces sweep.preparation.statePath (Path.join "/work" sweep.snapshotPath) :=
  FileSystem.not_displaces_of_names named again notItself notMeanwhile

/-- All files of the command can be written and a snapshot is published, but when the command has
ended, the snapshot is not read from its file. -/
structure LosesSnapshot (sweep : Sweep) : Prop where
  configured : Config.load sweep.files (Path.join "/work" defaultConfig) = .ok sweep.config
  prepared : prepare sweep.launcher strandedTarget (some "Main").isNone sweep.files =
    .ok sweep.preparation
  called : sweep.preparation.call 2 (Engine.generatedId 0) (some "Main") sweep.files =
    some (.error error, sweep.final)
  written : sweep.preparation.Writes (Path.join "/work" sweep.snapshotPath) (Engine.generatedId 0)
    (some "Main") sweep.files (.error error) sweep.final
  stored : sweep.final.run.StorableAt (Path.join "/work" sweep.runStatePath)
    sweep.final.workspace.files
  lost : ∃ report after last,
    perform sweep.launcher 2 0 strandedRun sweep.files = some (report, after) ∧
      sweep.final.published.getLast? = some last ∧
        ¬ last.ReadableAt (Path.join "/work" sweep.snapshotPath) after

private theorem losesSnapshot (valid : sweep.config.fault? = none)
    (written : sweep.snapshot.StorableAt (Path.join "/work" sweep.snapshotPath)
      sweep.stepped.workspace.files)
    (stored : sweep.final.run.StorableAt (Path.join "/work" sweep.runStatePath)
      sweep.final.workspace.files)
    (gone : sweep.left.read (Path.join "/work" sweep.snapshotPath) = .error .notFound) :
    sweep.LosesSnapshot := by
  refine ⟨is_configured valid, is_prepared valid, is_called, writes_snapshot written, stored,
    _, _, _, is_performed valid stored, shows_snapshot, ?_⟩
  rintro ⟨text, read, _⟩
  rw [FileSystem.readText, gone] at read
  cases read

end Sweep

/-- Under the default paths, where nothing is taken away. -/
def usualSweep : Sweep := ⟨Config.default.snapshotPath, Config.default.runStatePath, none⟩

/-- It leaves both files. -/
theorem usual_sweep_leaves_both_files :
    ∃ report after,
      perform usualSweep.launcher 2 0 strandedRun usualSweep.files = some (report, after) ∧
        RunState.load after (Path.join "/work" usualSweep.runStatePath) =
          .ok usualSweep.final.run ∧
        usualSweep.final.published.getLast? = some usualSweep.snapshot ∧
        usualSweep.snapshot.ReadableAt (Path.join "/work" usualSweep.snapshotPath) after := by
  have valid : usualSweep.config.fault? = none := by decide
  have entered : usualSweep.files.prepareSandbox strandedTarget.sandbox = .ok "/work" := rfl
  have written : usualSweep.snapshot.StorableAt (Path.join "/work" usualSweep.snapshotPath)
      usualSweep.stepped.workspace.files := by decide
  have stored : usualSweep.final.run.StorableAt (Path.join "/work" usualSweep.runStatePath)
      usualSweep.final.workspace.files := by decide
  have countable : usualSweep.final.run.Countable :=
    ⟨by decide, by decide, by decide⟩
  obtain ⟨report, after, performed, loaded, readable⟩ :=
    commands_leave_state_and_snapshot stranded_is_asked.2 entered (Sweep.is_configured valid)
      (Sweep.is_prepared valid) Sweep.is_called (Sweep.writes_snapshot written) stored countable
  have same : after = usualSweep.left :=
    congrArg Prod.snd (Option.some.inj
      (performed.symm.trans (Sweep.is_performed valid stored)))
  have named : Path.fileName? usualSweep.preparation.statePath = some "run_state.json" := by
    decide
  have again : Path.fileName? (Path.join "/work" usualSweep.snapshotPath) =
      some "snapshot.json" := by
    decide
  have apart : ¬ after.Displaces (Path.join "/work" usualSweep.runStatePath)
      (Path.join "/work" usualSweep.snapshotPath) := by
    rw [same]
    exact Sweep.spares_snapshot named again (by decide) (by decide)
  refine ⟨report, after, performed, loaded, Sweep.shows_snapshot, ?_⟩
  exact (readable (Sweep.spares_of_whole rfl) _ Sweep.shows_snapshot).mpr apart

/-- A snapshot is lost if its path is the one under which the state is written before it is moved,
and if the program of a failing step takes its file away. -/
theorem runs_lose_snapshots :
    (Sweep.mk "run.tmp" "run" none).LosesSnapshot ∧
      (Sweep.mk Config.default.snapshotPath Config.default.runStatePath
        (some ["work", ".graph-runner", "snapshot.json"])).LosesSnapshot :=
  ⟨Sweep.losesSnapshot (by decide) (by decide) (by decide) rfl,
    Sweep.losesSnapshot (by decide) (by decide) (by decide) rfl⟩

end CommandLine
end StepGraph
