import StepGraph.CommandLine.Run
import StepGraph.Proofs.Engine.History
import StepGraph.Proofs.Engine.Orders
import StepGraph.Proofs.FileSystem.Refusal
import StepGraph.Proofs.Manifest.Codec
import StepGraph.Proofs.RunState.Reading
import StepGraph.Proofs.RunState.Store

/-! What a command leaves of the saved state when it hands out no order. A command that
cannot be prepared leaves all files as they are. One that goes on with the saved run stores
the state that it has loaded, and one that starts a run stores the beginning of that run.
Where the state cannot be stored, the file is still read as it was. -/
namespace StepGraph

variable {files after : FileSystem} {path : String} {state : RunState}

namespace RunState

/-- The state that can be loaded before can be loaded afterwards. -/
def SparedAt (path : String) (files after : FileSystem) : Prop :=
  ∀ saved, load files path = .ok saved → load after path = .ok saved

/-- The state can be stored under that path. -/
def StorableAt (state : RunState) (path : String) (files : FileSystem) : Prop :=
  ((state.store path).run ⟨files, false⟩).1 = .ok ()

instance : Decidable (state.StorableAt path files) := inferInstanceAs (Decidable (_ = _))

/-- The state has taken the place of the saved one; where it cannot be stored, the saved one is
still there. -/
structure ReplacesAt (state : RunState) (path : String) (files after : FileSystem) : Prop where
  stored : state.StorableAt path files → load after path = .ok state
  refused : ¬ state.StorableAt path files → SparedAt path files after

/-- A state that takes its own place is there afterwards, stored again or not. -/
theorem ReplacesAt.sparedAt (replaces : state.ReplacesAt path files after)
    (loaded : load files path = .ok state) : SparedAt path files after := by
  intro saved again
  cases loaded.symm.trans again
  by_cases storable : state.StorableAt path files
  · exact replaces.stored storable
  · exact replaces.refused storable state loaded

/-- A state that has been loaded is there as long as its file is read as before. -/
theorem sparedAt_of_read
    (same : ∀ content, files.read path = .ok content → after.read path = .ok content) :
    SparedAt path files after := by
  intro saved loaded
  obtain ⟨text, found, _⟩ := bind_eq_ok.mp loaded
  obtain ⟨content, held, _⟩ := bind_eq_ok.mp (mapError_eq_ok.mp found)
  have again : after.readText path = files.readText path := by
    unfold FileSystem.readText
    rw [held, same content held]
  unfold load at loaded ⊢
  rw [again]
  exact loaded

/-- A state that could not be stored leaves the one that is there. -/
theorem sparedAt_of_refused {workspace left : Workspace} {failure : Failure}
    (refused : (state.store path).run workspace = (.error failure, left)) :
    SparedAt path workspace.files left.files := by
  have refused := FileSystem.replace_of_run refused
  exact sparedAt_of_read fun content held => FileSystem.read_of_refused refused held

/-- The beginning of a run can be stored: its step reads back, and nothing has been counted. -/
theorem held_startingAt {manifest : Manifest} {group runId : String} {entry : StepId}
    (entered : manifest.entryOf group = .ok entry) : (startingAt runId entry).Held := by
  have word : 0 < Data.wordBound := by decide
  exact (legible_startingAt (Manifest.readsBack_of_entryOf entered)).held word

end RunState

namespace CommandLine

variable {launch : Launcher} {target : Target} {prepared : Preparation} {fuel nanoseconds : Nat}
  {runId : String} {group : Option String} {outcome : Except RunError Completion}
  {final : Session Registry} {arguments : List String} {report : Report}

/-- The state with which a run is prepared: the saved one, if the run is to go on. -/
inductive Saved (files : FileSystem) (path : String) : (resumes : Bool) → Option RunState → Prop
  | anew : Saved files path false none
  | again {state : RunState} (loaded : RunState.load files path = .ok state) :
      Saved files path true (some state)

/-- A run is prepared when its sandbox, its manifest, its configuration, its executors and the
state to go on from are there. -/
theorem prepare_eq_ok {resumes : Bool} :
    prepare launch target resumes files = .ok prepared ↔
      ∃ sandbox manifest config registry saved,
        files.prepareSandbox target.sandbox = .ok sandbox ∧
        Manifest.load files target.manifest = .ok manifest ∧
        Config.load files (target.config.getD (Path.join sandbox defaultConfig)) = .ok config ∧
        Registry.ofConfig config = .ok registry ∧
        Saved files (Path.join sandbox config.runStatePath) resumes saved ∧
        prepared = ⟨⟨manifest, Registry.service launch, sandbox, config.maxSteps.map UInt64.toNat,
          [Path.join sandbox config.snapshotPath]⟩, registry,
          Path.join sandbox config.runStatePath, saved⟩ := by
  cases resumes with
  | false =>
    simp only [prepare, Bool.false_eq_true, ↓reduceIte, bind_eq_ok]
    constructor
    · rintro ⟨sandbox, entered, manifest, loaded, config, configured, registry, registered, _, ⟨⟩,
        ⟨⟩⟩
      exact ⟨sandbox, manifest, config, registry, none, entered, loaded, configured, registered,
        .anew, rfl⟩
    · rintro ⟨sandbox, manifest, config, registry, _, entered, loaded, configured, registered,
        ⟨⟩, rfl⟩
      exact ⟨sandbox, entered, manifest, loaded, config, configured, registry, registered, none,
        rfl, rfl⟩
  | true =>
    simp only [prepare, ↓reduceIte, bind_eq_ok]
    constructor
    · rintro ⟨sandbox, entered, manifest, loaded, config, configured, registry, registered, _,
        attempted, ⟨⟩⟩
      obtain ⟨state, found, rfl⟩ := map_eq_ok.mp attempted
      exact ⟨sandbox, manifest, config, registry, some state, entered, loaded, configured,
        registered, .again (mapError_eq_ok.mp found), rfl⟩
    · rintro ⟨sandbox, manifest, config, registry, _, entered, loaded, configured, registered,
        again, rfl⟩
      cases again with
      | again found =>
        exact ⟨sandbox, entered, manifest, loaded, config, configured, registry, registered, _,
          map_eq_ok.mpr ⟨_, mapError_eq_ok.mpr found, rfl⟩, rfl⟩

/-- A call that hands out no order fails and leaves all files as they are. The state is then
the one that was saved, or the beginning of the run that was started. -/
structure Preparation.Idles (prepared : Preparation) (runId : String) (group : Option String)
    (files : FileSystem) (outcome : Except RunError Completion) (final : Session Registry) :
    Prop where
  files : final.workspace.files = files
  failed : ∃ error, outcome = .error error
  resumed : group = none → final.run = prepared.saved.getD .blank
  started : ∀ name entry, group = some name →
    prepared.engine.manifest.entryOf name = .ok entry → final.run = .startingAt runId entry

private theorem Preparation.idles_of_call (names : prepared.engine.manifest.validateNames = .ok ())
    (called : prepared.call fuel runId group files = some (outcome, final))
    (idle : final.dispatched = []) : prepared.Idles runId group files outcome final := by
  cases group with
  | some name =>
    cases entered : prepared.engine.manifest.entryOf name with
    | error error =>
      simp only [Preparation.call, Engine.run, names, entered] at called
      cases called
      refine ⟨rfl, ⟨_, rfl⟩, ?_, ?_⟩
      · rintro ⟨⟩
      · rintro _ _ ⟨⟩ again
        cases entered.symm.trans again
    | ok entry =>
      -- The run has begun: what drives it stops at its first step, with the state it began with.
      simp only [Preparation.call, Engine.run_of_begins ⟨names, entered⟩] at called
      obtain ⟨rfl, failed⟩ := Engine.idle_of_drive rfl rfl called idle
      refine ⟨rfl, failed, ?_, ?_⟩
      · rintro ⟨⟩
      · rintro _ _ ⟨⟩ again
        cases entered.symm.trans again
        rfl
  | none =>
    simp only [Preparation.call] at called
    rcases Engine.resume_eq_some called with ⟨_, rfl, rfl⟩ | ⟨_, invalid, _⟩ |
      ⟨⟨current, waiting⟩, _, driven⟩
    · refine ⟨rfl, ⟨_, rfl⟩, fun _ => rfl, ?_⟩
      rintro _ _ ⟨⟩
    · cases names.symm.trans invalid
    · obtain ⟨rfl, failed⟩ := Engine.idle_of_drive waiting rfl driven idle
      refine ⟨rfl, failed, fun _ => rfl, ?_⟩
      rintro _ _ ⟨⟩

/-- When the state of a failed call is stored, the program fails. The state has then taken the
place of the one that was there. -/
theorem conduct_eq_some {error : RunError}
    (called : prepared.call fuel runId group files = some (.error error, final))
    (kept : final.workspace.files = files)
    (conducted : conduct fuel runId group prepared files = some (report, after)) :
    report.exit = 1 ∧
      (final.run.Held → final.run.ReplacesAt prepared.statePath files after) := by
  subst kept
  unfold conduct at conducted
  simp only [called, bind, Option.bind] at conducted
  split at conducted
  · rename_i failure left refused
    cases conducted
    have unstorable : ¬ final.run.StorableAt prepared.statePath final.workspace.files := by
      intro storable
      cases (congrArg Prod.fst refused).symm.trans storable
    have spared := RunState.sparedAt_of_refused refused
    exact ⟨rfl, fun _ => ⟨fun storable => absurd storable unstorable, fun _ => spared⟩⟩
  · rename_i left wrote
    cases conducted
    have storable : final.run.StorableAt prepared.statePath final.workspace.files :=
      congrArg Prod.fst wrote
    refine ⟨rfl, fun held => ⟨fun _ => RunState.load_of_store held wrote, ?_⟩⟩
    exact fun unstorable => absurd storable unstorable

/-- What asks for a run from a group on, or to go on with the saved run. -/
def Target.invocation (target : Target) : Option String → Invocation
  | some group => .run target group
  | none => .resume target

theorem perform_of_asked (asked : read arguments = .invocation (target.invocation group)) :
    perform launch fuel nanoseconds arguments files =
      carryOut launch fuel nanoseconds target group files := by
  unfold perform
  rw [asked]
  cases group <;> rfl

theorem carryOut_of_prepare (ready : prepare launch target group.isNone files = .ok prepared) :
    carryOut launch fuel nanoseconds target group files =
      conduct fuel (Engine.generatedId nanoseconds) group prepared files := by
  simp only [carryOut, ready]

/-- The orders that a command hands out. -/
def ordersOf (launch : Launcher) (fuel nanoseconds : Nat) (target : Target)
    (group : Option String) (files : FileSystem) : Option (List WorkOrder) :=
  match prepare launch target group.isNone files with
  | .error _ => some []
  | .ok prepared =>
    (prepared.call fuel (Engine.generatedId nanoseconds) group files).map (·.2.dispatched)

private theorem ordersOf_of_prepare
    (ready : prepare launch target group.isNone files = .ok prepared) :
    ordersOf launch fuel nanoseconds target group files =
      (prepared.call fuel (Engine.generatedId nanoseconds) group files).map (·.2.dispatched) := by
  simp only [ordersOf, ready]

/-- A command ends when what it runs ends. -/
theorem exists_of_ordersOf {orders : List WorkOrder}
    (asked : read arguments = .invocation (target.invocation group))
    (handed : ordersOf launch fuel nanoseconds target group files = some orders) :
    ∃ report after, perform launch fuel nanoseconds arguments files = some (report, after) := by
  rw [perform_of_asked asked]
  cases ready : prepare launch target group.isNone files with
  | error failure =>
    simp only [carryOut, ready]
    exact ⟨_, _, rfl⟩
  | ok prepared =>
    rw [ordersOf_of_prepare ready] at handed
    rw [carryOut_of_prepare ready]
    obtain ⟨_, called, _⟩ := Option.map_eq_some_iff.mp handed
    simp only [conduct, called, bind, Option.bind]
    split <;> exact ⟨_, _, rfl⟩

/-- A command that hands out no order ends and fails. If it could not be prepared, no file has
changed. If it was to go on with the saved run, the saved state is loaded as before. If it began
a run, the beginning of that run has taken the place of the saved state. -/
theorem idle_commands_fail
    (asked : read arguments = .invocation (target.invocation group))
    (idle : ordersOf launch fuel nanoseconds target group files = some []) :
    ∃ report after, perform launch fuel nanoseconds arguments files = some (report, after) ∧
      report.exit = 1 ∧
      (∀ failure, prepare launch target group.isNone files = .error failure → after = files) ∧
      ∀ prepared, prepare launch target group.isNone files = .ok prepared →
        (group = none → RunState.SparedAt prepared.statePath files after) ∧
        ∀ name entry, group = some name →
          prepared.engine.manifest.entryOf name = .ok entry →
            (RunState.startingAt (Engine.generatedId nanoseconds) entry).ReplacesAt
              prepared.statePath files after := by
  obtain ⟨report, after, performed⟩ := exists_of_ordersOf asked idle
  refine ⟨report, after, performed, ?_⟩
  rw [perform_of_asked asked] at performed
  cases ready : prepare launch target group.isNone files with
  | error failure =>
    simp only [carryOut, ready] at performed
    cases performed
    exact ⟨rfl, fun _ _ => rfl, nofun⟩
  | ok prepared =>
    rw [carryOut_of_prepare ready] at performed
    rw [ordersOf_of_prepare ready] at idle
    obtain ⟨⟨outcome, final⟩, called, none⟩ := Option.map_eq_some_iff.mp idle
    obtain ⟨_, manifest, _, _, _, _, loaded, _, _, saved, same⟩ := prepare_eq_ok.mp ready
    have names : prepared.engine.manifest.validateNames = .ok () := by
      rw [same]
      exact Manifest.validateNames_of_load loaded
    have idles := Preparation.idles_of_call names called none
    obtain ⟨error, rfl⟩ := idles.failed
    obtain ⟨fails, replaces⟩ := conduct_eq_some called idles.files performed
    refine ⟨fails, nofun, ?_⟩
    rintro _ ⟨⟩
    refine ⟨?_, ?_⟩
    · rintro rfl state found
      have saved : prepared.saved = some state := by
        cases saved with
        | again again =>
          subst same
          cases again.symm.trans found
          rfl
      have restored : final.run = state := by
        rw [idles.resumed rfl, saved]
        rfl
      rw [restored] at replaces
      exact (replaces (RunState.held_of_load found)).sparedAt found state found
    · intro name entry starts entered
      rw [idles.started name entry starts entered] at replaces
      exact replaces (RunState.held_startingAt entered)

/-- A step that wants a file beside the sandbox. -/
def strandedStep : Step := ⟨"tool", none, [], ["../notes"], []⟩

/-- Two of them. -/
def stranded : Manifest := .small [("Main", [("A", strandedStep), ("B", strandedStep)])]

/-- Where the state of a run is saved. -/
def strandedPath : String := Path.join "/work" Config.default.runStatePath

/-- The state that has been saved: the second step is next. -/
def strandedState : RunState := (relayNext (.append relayMessage)).run

/-- The sandbox holds the manifest and the state. -/
def strandedFiles : FileSystem :=
  ((FileSystem.fresh ["work", ".graph-runner"]).put ["work", "flow.json"]
      (.file (Json.pretty stranded.toData ++ "\n").toUTF8 .plain)).put
    ["work", ".graph-runner", "run_state.json"] (.file strandedState.fileText.toUTF8 .plain)

def strandedTarget : Target := ⟨"/work/flow.json", "/work", none⟩

/-- No program can be started. -/
def idleLauncher : Launcher := fun _ _ _ files => (.error .notFound, files)

private theorem stranded_is_loaded : Manifest.load strandedFiles "/work/flow.json" = .ok stranded :=
  Manifest.load_of_read (by decide) (by decide) Json.blank_lineBreak rfl

private theorem strandedState_is_loaded :
    RunState.load strandedFiles strandedPath = .ok strandedState := by
  have word : strandedState.iterations < Data.wordBound := by decide
  exact RunState.load_of_read (relay_remembers.legible.held word) rfl

/-- What is prepared there. -/
def strandedPreparation (saved : Option RunState) : Preparation where
  engine := ⟨stranded, Registry.service idleLauncher, "/work", none,
    [Path.join "/work" Config.default.snapshotPath]⟩
  registry := .empty
  statePath := strandedPath
  saved := saved

private theorem stranded_is_prepared {resumes : Bool} {saved : Option RunState}
    (found : Saved strandedFiles strandedPath resumes saved) :
    prepare idleLauncher strandedTarget resumes strandedFiles =
      .ok (strandedPreparation saved) := by
  have entered : strandedFiles.prepareSandbox "/work" = .ok "/work" := by decide
  have configured : Config.load strandedFiles (Path.join "/work" defaultConfig) = .ok .default := by
    decide
  exact prepare_eq_ok.mpr ⟨"/work", stranded, .default, .empty, saved, entered,
    stranded_is_loaded, configured, rfl, found, rfl⟩

/-- How the program is asked to go on there. -/
def strandedResume : List String :=
  ["resume", "--manifest", "/work/flow.json", "--sandbox", "/work"]

/-- How it is asked to start a run there. -/
def strandedRun : List String :=
  ["run", "--manifest", "/work/flow.json", "--sandbox", "/work", "--group", "Main"]

theorem stranded_is_asked :
    read strandedResume = .invocation (strandedTarget.invocation none) ∧
      read strandedRun = .invocation (strandedTarget.invocation (some "Main")) := by
  decide

/-- Going on fails at the artifact of the second step, and the saved state stays. -/
theorem stranded_resume_spares_state :
    ∃ report after,
      perform idleLauncher 8 0 strandedResume strandedFiles = some (report, after) ∧
        ordersOf idleLauncher 8 0 strandedTarget none strandedFiles = some [] ∧
        report.exit = 1 ∧ RunState.load after strandedPath = .ok strandedState := by
  have ready : prepare idleLauncher strandedTarget (none : Option String).isNone strandedFiles =
      .ok (strandedPreparation (some strandedState)) :=
    stranded_is_prepared (.again strandedState_is_loaded)
  have idle : ((strandedPreparation (some strandedState)).call 8 (Engine.generatedId 0) none
      strandedFiles).map (·.2.dispatched) = some [] := by
    decide
  have idle := (ordersOf_of_prepare ready).trans idle
  obtain ⟨report, after, performed, failed, _, spared⟩ :=
    idle_commands_fail stranded_is_asked.1 idle
  have spared := (spared _ ready).1 rfl strandedState strandedState_is_loaded
  exact ⟨report, after, performed, idle, failed, spared⟩

/-- Starting a run fails at the artifact of the first step, and the beginning of that run has
taken the place of the saved state. -/
theorem stranded_run_replaces_state :
    ∃ report after,
      perform idleLauncher 8 0 strandedRun strandedFiles = some (report, after) ∧
        ordersOf idleLauncher 8 0 strandedTarget (some "Main") strandedFiles = some [] ∧
        report.exit = 1 ∧ RunState.load strandedFiles strandedPath = .ok strandedState ∧
        RunState.load after strandedPath ≠ .ok strandedState := by
  have ready : prepare idleLauncher strandedTarget (some "Main").isNone strandedFiles =
      .ok (strandedPreparation none) :=
    stranded_is_prepared .anew
  have idle : ((strandedPreparation none).call 8 (Engine.generatedId 0) (some "Main")
      strandedFiles).map (·.2.dispatched) = some [] := by
    decide
  have handed := (ordersOf_of_prepare ready).trans idle
  obtain ⟨report, after, performed⟩ := exists_of_ordersOf stranded_is_asked.2 handed
  have conducted := performed
  rw [perform_of_asked stranded_is_asked.2, carryOut_of_prepare ready] at conducted
  obtain ⟨⟨outcome, final⟩, called, none⟩ := Option.map_eq_some_iff.mp idle
  have names := Manifest.validateNames_of_load stranded_is_loaded
  have idles := Preparation.idles_of_call names called none
  obtain ⟨error, rfl⟩ := idles.failed
  obtain ⟨failed, replaces⟩ := conduct_eq_some called idles.files conducted
  have entered : stranded.entryOf "Main" = .ok ⟨"Main", "A"⟩ := by decide
  have begun := idles.started "Main" _ rfl entered
  have storable : (RunState.startingAt (Engine.generatedId 0) ⟨"Main", "A"⟩).StorableAt
      strandedPath strandedFiles := by
    decide
  rw [begun] at replaces
  have replaced : RunState.load after strandedPath =
      .ok (.startingAt (Engine.generatedId 0) ⟨"Main", "A"⟩) :=
    (replaces (RunState.held_startingAt entered)).stored storable
  refine ⟨report, after, performed, handed, failed, strandedState_is_loaded, ?_⟩
  rw [replaced]
  intro same
  have counted : 0 = strandedState.iterations := congrArg RunState.iterations (Except.ok.inj same)
  exact absurd counted (by decide)

end CommandLine
end StepGraph
