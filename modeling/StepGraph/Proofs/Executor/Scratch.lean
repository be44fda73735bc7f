import StepGraph.Proofs.Engine.Growth
import StepGraph.Proofs.FileSystem.Destination
import StepGraph.Proofs.Json.Scalars
import StepGraph.Proofs.Manifest.Names

/-! Where agents keep their files. Schema, answer and log of an order are joined to a directory
of the sandbox from the name of the executor, the id of the step and the number of the iteration.
None of these is made for paths: the name is any key of a configuration, and the id may have
slashes in it. The three files lie in the directory that is meant exactly when the name is that
of a file and the id has no slash. Then two orders share no answer and no log, unless they are
for one step in one iteration. -/
namespace StepGraph

open FileSystem (IsName KeepsApart destination)

/-- Whether they start or not, programs leave what is there apart from these places, when
relative paths begin at `cwd`. -/
def Launcher.Keeps (launch : Launcher) (cwd : Location) (places : List Location) : Prop :=
  ∀ program arguments request (files : FileSystem), files.cwd = cwd →
    KeepsApart places files (launch program arguments request files).2

namespace Workspace.Task

variable {α β : Type} {task : Task α} {next : α → Task β} {cwd : Location}
  {places : List Location} {attempt : Fault} {launch : Launcher}

/-- Whether it succeeds or not, the task leaves what is there apart from these places, when
relative paths begin at `cwd`. -/
def Keeps (task : Task α) (cwd : Location) (places : List Location) : Prop :=
  ∀ workspace, workspace.files.cwd = cwd →
    KeepsApart places workspace.files (task.run workspace).2.files

private theorem Keeps.bind (first : task.Keeps cwd places)
    (second : ∀ value, (next value).Keeps cwd places) : (task >>= next).Keeps cwd places := by
  intro workspace here
  have before := first workspace here
  show KeepsApart places workspace.files (Task.andThen task next workspace).2.files
  unfold Task.run at before
  unfold Task.andThen
  generalize task workspace = done at before ⊢
  rcases done with ⟨failure | value, between⟩
  · exact before
  · exact before.trans (second value between (before.cwd.trans here))

/-- A task that only looks leaves everything. -/
theorem keeps_of_same (same : ∀ workspace, (task.run workspace).2 = workspace) :
    task.Keeps cwd places := by
  intro workspace _
  rw [same]
  exact .refl places workspace.files

private theorem Keeps.during (keeps : task.Keeps cwd places) :
    (task.during attempt).Keeps cwd places := by
  intro workspace here
  have before := keeps workspace here
  unfold Task.run at before ⊢
  unfold Task.during
  generalize task workspace = done at before ⊢
  rcases done with ⟨failure | value, after⟩
  · exact before
  · exact before

private theorem keeps_change {operation : FileSystem → Except IoError Unit × FileSystem}
    (keeps : ∀ files : FileSystem, files.cwd = cwd → KeepsApart places files (operation files).2) :
    (Task.change attempt operation).Keeps cwd places := by
  intro workspace here
  have after := keeps workspace.files here
  unfold Task.run Task.change
  generalize operation workspace.files = done at after ⊢
  rcases done with ⟨error | done, changed⟩
  · exact after
  · exact after

/-- An operation that changes nothing when it fails keeps what it keeps when it succeeds. -/
theorem keeps_change_allOrNothing {operation : FileSystem → Except IoError FileSystem}
    (keeps : ∀ files changed : FileSystem, files.cwd = cwd → operation files = .ok changed →
      KeepsApart places files changed) :
    (Task.change attempt (Disk.allOrNothing operation)).Keeps cwd places := by
  refine keeps_change fun files here => ?_
  unfold Disk.allOrNothing
  cases done : operation files with
  | error => exact .refl places files
  | ok changed => exact keeps files changed here done

private theorem keeps_write {path : String} {content : ByteArray}
    (among : destination cwd path ∈ places) :
    (Task.change attempt (Disk.sound.write path content)).Keeps cwd places := by
  refine keeps_change_allOrNothing fun files changed here written => ?_
  subst here
  exact FileSystem.keepsApart_of_write written among

private theorem keeps_removeFile {path : String} (among : destination cwd path ∈ places) :
    (Task.change attempt (Disk.allOrNothing (·.removeFile path))).Keeps cwd places := by
  refine keeps_change_allOrNothing fun files changed here removed => ?_
  subst here
  exact FileSystem.keepsApart_of_removeFile removed among

/-- Directories are made where nothing is. -/
theorem keeps_makeDirectories {path : String} :
    (Task.change attempt (Disk.sound.makeDirectories path)).Keeps cwd places :=
  keeps_change fun _ _ => (FileSystem.grows_of_makeDirectoriesWithin rfl).keepsApart places

/-- A program is all that changes files while it runs. -/
theorem keeps_run {request : ProcessRequest} (launches : launch.Keeps cwd places) :
    (request.run launch).Keeps cwd places := by
  intro workspace here
  unfold Task.run ProcessRequest.run
  split
  · exact .refl places workspace.files
  · rename_i program arguments _
    have after := launches program arguments request workspace.files here
    split
    · rename_i started
      rwa [started] at after
    · rename_i child files started
      rw [started] at after
      cases child.interrupts
      · exact after
      · exact after

end Workspace.Task

/-! ## Files of an order -/
namespace AgentExecutor

variable {agent : AgentExecutor} {order : WorkOrder} {cwd : Location}

/-- The place of the directory that is meant for the files of the agent. -/
def home (agent : AgentExecutor) (order : WorkOrder) (cwd : Location) : Location :=
  destination cwd order.sandbox ++ [agent.scratch, agent.name]

/-- The places at which the agent writes files for an order, or takes one away. -/
def places (agent : AgentExecutor) (order : WorkOrder) (cwd : Location) : List Location :=
  [destination cwd (agent.schemaPath order), destination cwd (agent.answerPath order),
    destination cwd (agent.logPath order)]

/-- The files for an order lie right in the directory that is meant for them. -/
structure StaysHome (agent : AgentExecutor) (order : WorkOrder) (cwd : Location) : Prop where
  schema : destination cwd (agent.schemaPath order) =
    agent.home order cwd ++ ["output.schema.json"]
  answer : destination cwd (agent.answerPath order) =
    agent.home order cwd ++ [attempt order ++ ".output.json"]
  log : destination cwd (agent.logPath order) =
    agent.home order cwd ++ [attempt order ++ ".log"]

private theorem isName_answer_iff : IsName (attempt order ++ ".output.json") ↔
    '/' ∉ (attempt order).toList :=
  FileSystem.isName_append_iff (by decide) (by decide)

private theorem isName_log_iff : IsName (attempt order ++ ".log") ↔ '/' ∉ (attempt order).toList :=
  FileSystem.isName_append_iff (by decide) (by decide)

/-- The directory is the one that is meant exactly when the agent is named like a file. -/
theorem destination_directory_iff (scratch : IsName agent.scratch) :
    destination cwd (agent.directory order) = agent.home order cwd ↔ IsName agent.name := by
  have above : destination cwd (Path.join order.sandbox agent.scratch) =
      destination cwd order.sandbox ++ [agent.scratch] :=
    FileSystem.destination_join_iff.mpr scratch
  have meant : agent.home order cwd =
      destination cwd (Path.join order.sandbox agent.scratch) ++ [agent.name] := by
    rw [above, List.append_assoc]
    rfl
  rw [meant]
  exact FileSystem.destination_join_iff

/-- The files stay in the directory that is meant for them exactly when the agent is named like
a file and nothing that is told of the attempt has a slash. -/
theorem staysHome_iff (scratch : IsName agent.scratch) :
    agent.StaysHome order cwd ↔ IsName agent.name ∧ '/' ∉ (attempt order).toList := by
  have joined : ∀ file, IsName file →
      destination cwd (Path.join (agent.directory order) file) =
        destination cwd (agent.directory order) ++ [file] :=
    fun _ => FileSystem.destination_join_iff.mpr
  constructor
  · intro stays
    -- The schema is named the same for all orders, so its place tells where the directory is.
    have schema := stays.schema
    rw [schemaPath, joined _ (by decide)] at schema
    have here := List.append_cancel_right schema
    have answer := stays.answer
    rw [answerPath, ← here] at answer
    exact ⟨(destination_directory_iff scratch).mp here,
      isName_answer_iff.mp (FileSystem.destination_join_iff.mp answer)⟩
  · rintro ⟨named, whole⟩
    have here : destination cwd (agent.directory order) = agent.home order cwd :=
      (destination_directory_iff scratch).mpr named
    constructor
    case schema => rw [schemaPath, joined _ (by decide), here]
    case answer => rw [answerPath, joined _ (isName_answer_iff.mpr whole), here]
    case log => rw [logPath, joined _ (isName_log_iff.mpr whole), here]

/-- Before the program starts, only the schema and the old answer are changed. -/
theorem keeps_prepare {changeable : List Location}
    (schema : destination cwd (agent.schemaPath order) ∈ changeable)
    (answer : destination cwd (agent.answerPath order) ∈ changeable) :
    (agent.prepare order).Keeps cwd changeable := by
  refine Workspace.Task.keeps_makeDirectories.bind fun _ => ?_
  refine (Workspace.Task.keeps_write schema).bind fun _ => ?_
  refine (Workspace.Task.keeps_of_same fun _ => rfl).bind fun there => ?_
  cases there with
  | false => exact Workspace.Task.keeps_of_same fun _ => rfl
  | true => exact Workspace.Task.keeps_removeFile answer

/-- Apart from what its program changes, an agent leaves everything but the files for its order
as it is. -/
theorem keeps_handle {launch : Launcher} {others : List Location}
    (launches : launch.Keeps cwd others) :
    (agent.handle launch order).Keeps cwd (agent.places order cwd ++ others) := by
  have schema : destination cwd (agent.schemaPath order) ∈ agent.places order cwd ++ others := by
    simp [places]
  have answer : destination cwd (agent.answerPath order) ∈ agent.places order cwd ++ others := by
    simp [places]
  have log : destination cwd (agent.logPath order) ∈ agent.places order cwd ++ others := by
    simp [places]
  have within : launch.Keeps cwd (agent.places order cwd ++ others) :=
    fun program arguments request files here =>
      (launches program arguments request files here).mono (List.subset_append_right _ _)
  refine (keeps_prepare schema answer).bind fun _ => ?_
  refine (Workspace.Task.keeps_run within).during.bind fun output => ?_
  refine (Workspace.Task.keeps_write log).bind fun _ => ?_
  cases agent.endingFault? order output with
  | some fault => exact Workspace.Task.keeps_of_same fun _ => rfl
  | none =>
    refine (Workspace.Task.keeps_of_same fun _ => rfl).bind fun said => ?_
    exact Workspace.Task.keeps_of_same fun _ => rfl

end AgentExecutor

/-! ## Orders of an engine -/

namespace Stage

variable {stage : Stage} {agent : AgentExecutor} {dispatch : Dispatch}

/-- At a stage of a run with executors of configurations, the order is for an agent of the
configuration. -/
inductive Asks (agent : AgentExecutor) (dispatch : Dispatch) : Stage → Prop
  | intro {engine : Engine Registry} {session : Session Registry} {config : Config}
      {manifest : Manifest} {group : String}
      (registered : Registry.ofConfig config = .ok session.service)
      (found : session.service.executors.get? dispatch.order.executor = some (.agent agent))
      (reached : Reached manifest group Configured ⟨engine, session⟩)
      (dispatched : Stage.dispatch ⟨engine, session⟩ = .ok dispatch) :
      Asks agent dispatch ⟨engine, session⟩

/-- The agent has the name that the order gives, and the usual scratch directory. -/
theorem Asks.agent_eq (asks : stage.Asks agent dispatch) :
    agent.name = dispatch.order.executor ∧ agent.scratch = ".graph-runner" := by
  cases asks with
  | intro registered found _ _ =>
    obtain ⟨settings, _, described⟩ :=
      Registry.mem_of_ofConfig registered (SortedMap.get?_eq_some.mp found)
    cases settings with
    | command settings => cases described
    | agent settings =>
      have same := Executor.agent.inj described
      exact ⟨congrArg AgentExecutor.name same, congrArg AgentExecutor.scratch same⟩

/-- The step of an order can be told from its text. -/
theorem Asks.wellNamed (asks : stage.Asks agent dispatch) : dispatch.id.WellNamed := by
  cases asks with
  | intro _ _ reached dispatched =>
    obtain ⟨_, begins⟩ := reached.ofRun.begins
    obtain ⟨_, _, assembles⟩ := assembles_of_dispatch dispatched
    have declared := assembles.declared
    rw [reached.ofRun.manifest_eq] at declared
    exact Manifest.wellNamed_of_declares begins.names ⟨_, declared⟩

/-- The files of an attempt are called after the step and the iteration. -/
theorem Asks.attempt_eq (asks : stage.Asks agent dispatch) :
    AgentExecutor.attempt dispatch.order =
      s!"{dispatch.id.text}.{Text.Decimal.text (stage.run.iterations + 1)}" := by
  cases asks with
  | intro _ _ reached dispatched =>
    have made := reached.made _ List.mem_cons_self
    unfold AgentExecutor.attempt
    rw [metadata?_step dispatched made, metadata?_iteration dispatched made]
    rfl

private theorem Asks.toList_attempt (asks : stage.Asks agent dispatch) :
    (AgentExecutor.attempt dispatch.order).toList =
      dispatch.id.text.toList ++ '.' :: Text.Decimal.digits (stage.run.iterations + 1) := by
  rw [asks.attempt_eq]
  simp [toString, Text.Decimal.text]

/-- What is told of an attempt has a slash when a name of the step has one. -/
theorem Asks.slash_not_mem_iff (asks : stage.Asks agent dispatch) :
    '/' ∉ (AgentExecutor.attempt dispatch.order).toList ↔
      '/' ∉ dispatch.id.group.toList ∧ '/' ∉ dispatch.id.step.toList := by
  have digits : '/' ∉ Text.Decimal.digits (stage.run.iterations + 1) := fun member =>
    absurd (Text.Decimal.isDigit_of_mem_digits member) (by decide)
  rw [asks.toList_attempt]
  simp [StepId.text, digits]

/-- Attempts that are told alike are for one step in one iteration. -/
theorem Asks.attempt_inj {other : Stage} {second : AgentExecutor} {further : Dispatch}
    (asks : stage.Asks agent dispatch) (again : other.Asks second further)
    (same : AgentExecutor.attempt dispatch.order = AgentExecutor.attempt further.order) :
    dispatch.id = further.id ∧ stage.run.iterations = other.run.iterations := by
  have texts := congrArg String.toList same
  rw [asks.toList_attempt, again.toList_attempt] at texts
  obtain ⟨steps, iterations⟩ := Text.Decimal.eq_of_numbered (by decide) texts
  have read := asks.wellNamed.parse_text
  rw [String.toList_inj.mp steps, again.wellNamed.parse_text] at read
  exact ⟨(Except.ok.inj read).symm, Nat.succ.inj iterations⟩

end Stage

/-- In a run with executors of configurations, the files of an order for an agent stay in its own
directory exactly when the executor is named like a file and neither name of the step has a
slash. That directory lies in the scratch directory of the sandbox, and in it orders for
different steps or iterations have different answers and logs. Wherever its files are, an agent
leaves everything else as it is, apart from what its program changes. -/
theorem agent_files_stay_home {stage : Stage} {agent : AgentExecutor} {dispatch : Dispatch}
    (asks : stage.Asks agent dispatch) (cwd : Location) :
    (agent.StaysHome dispatch.order cwd ↔ IsName dispatch.order.executor ∧
      '/' ∉ dispatch.id.group.toList ∧ '/' ∉ dispatch.id.step.toList) ∧
      agent.home dispatch.order cwd = destination cwd dispatch.order.sandbox ++
        [".graph-runner", dispatch.order.executor] ∧
      (∀ (other : Stage) (second : AgentExecutor) (further : Dispatch),
        other.Asks second further → agent.StaysHome dispatch.order cwd →
        second.StaysHome further.order cwd →
        (dispatch.id, stage.run.iterations) ≠ (further.id, other.run.iterations) →
          destination cwd (agent.answerPath dispatch.order) ≠
              destination cwd (second.answerPath further.order) ∧
            destination cwd (agent.logPath dispatch.order) ≠
              destination cwd (second.logPath further.order)) ∧
      ∀ (launch : Launcher) (others : List Location), launch.Keeps cwd others →
        (agent.handle launch dispatch.order).Keeps cwd
          (agent.places dispatch.order cwd ++ others) := by
  obtain ⟨named, usual⟩ := asks.agent_eq
  have scratch : IsName agent.scratch := usual ▸ by decide
  refine ⟨?_, ?_, ?_, fun _ _ launches => AgentExecutor.keeps_handle launches⟩
  · rw [AgentExecutor.staysHome_iff scratch, named, asks.slash_not_mem_iff]
  · rw [AgentExecutor.home, usual, named]
  · intro other second further again stays remains differs
    have apart : AgentExecutor.attempt dispatch.order ≠ AgentExecutor.attempt further.order := by
      intro same
      obtain ⟨step, iteration⟩ := asks.attempt_inj again same
      exact differs (Prod.ext step iteration)
    have elsewhere (suffix : String) :
        agent.home dispatch.order cwd ++ [AgentExecutor.attempt dispatch.order ++ suffix] ≠
          second.home further.order cwd ++ [AgentExecutor.attempt further.order ++ suffix] := by
      intro same
      have last := List.singleton_inj.mp (List.append_inj_right' same rfl)
      have texts := congrArg String.toList last
      rw [String.toList_append, String.toList_append] at texts
      exact apart (String.toList_inj.mp (List.append_cancel_right texts))
    rw [stays.answer, stays.log, remains.answer, remains.log]
    exact ⟨elsewhere ".output.json", elsewhere ".log"⟩

/-- A configuration with one agent. -/
def scratchConfig (name : String) : Config :=
  { Config.default with executors := SortedMap.ofList [(name, .agent AgentSettings.default)] }

/-- The registry of that agent. -/
def scratchRegistry (name : String) : Registry :=
  (Registry.ofConfig (scratchConfig name)).toOption.getD .empty

/-- A step for that agent. -/
def scratchStep (name : String) : Step := ⟨name, none, [], [], [⟨"SUCCESS", "RETURN"⟩]⟩

/-- A file beside a sandbox. -/
def scratchFiles : FileSystem :=
  (FileSystem.fresh ["work", "box"]).put ["work", "out__A.1.output.json"] (.file ⟨#[]⟩ .plain)

/-- A run of a group with that step is about to begin; the program of the agent fails. -/
def scratchBegin (name group : String) : Stage where
  engine : Engine Registry :=
    ⟨.small [(group, [("A", scratchStep name)])], Registry.service (exiting 1), "/work/box", none,
      []⟩
  session := (Engine.newSession (scratchRegistry name) ⟨scratchFiles, false⟩).restarted
    (.startingAt "run-1" ⟨group, "A"⟩)

/-- The order for that step. -/
def scratchDispatch (name group : String) : Dispatch where
  id := ⟨group, "A"⟩
  step := scratchStep name
  order := ⟨name, metadataLayer ⟨"run-1", "/work/box", 1⟩ ⟨group, "A"⟩ 0, "/work/box"⟩

theorem scratchBegin_asks (name group : String)
    (begins : (scratchBegin name group).manifest.Begins group ⟨group, "A"⟩)
    (dispatched : (scratchBegin name group).dispatch = .ok (scratchDispatch name group)) :
    (scratchBegin name group).Asks (.ofName name) (scratchDispatch name group) := by
  have registered : Registry.ofConfig (scratchConfig name) = .ok (scratchRegistry name) := rfl
  have found : (scratchRegistry name).executors.get? name = some (.agent (.ofName name)) :=
    SortedMap.get?_eq_some.mpr List.mem_cons_self
  exact .intro registered found (.start rfl begins) dispatched

/-- With plain names the files lie in the directory of the agent, which leaves everything else as
it is, the file beside the sandbox too. -/
theorem plain_names_stay_home :
    (scratchBegin "tool" "Main").Asks (.ofName "tool") (scratchDispatch "tool" "Main") ∧
      (AgentExecutor.ofName "tool").StaysHome (scratchDispatch "tool" "Main").order ["work"] ∧
      (AgentExecutor.ofName "tool").places (scratchDispatch "tool" "Main").order ["work"] =
        [["work", "box", ".graph-runner", "tool", "output.schema.json"],
          ["work", "box", ".graph-runner", "tool", "Main__A.1.output.json"],
          ["work", "box", ".graph-runner", "tool", "Main__A.1.log"]] ∧
      ((AgentExecutor.ofName "tool").handle (exiting 1) (scratchDispatch "tool" "Main").order).Keeps
        ["work"] ((AgentExecutor.ofName "tool").places (scratchDispatch "tool" "Main").order
          ["work"] ++ []) := by
  have asks := scratchBegin_asks "tool" "Main" ⟨by decide, by decide⟩ (by decide +kernel)
  have launches : (exiting 1).Keeps ["work"] [] := fun _ _ _ files _ => .refl [] files
  obtain ⟨stays, _, _, keeps⟩ := agent_files_stay_home asks ["work"]
  exact ⟨asks, stays.mpr (by decide), by decide +kernel, keeps _ _ launches⟩

/-- Names that climb out of the sandbox pass all checks. After such a group, a file beside the
sandbox is taken away as if it were an old answer; after such an executor, the schema has its
place beside the sandbox. -/
theorem climbing_names_leave_home :
    (scratchConfig "tool").fault? = none ∧
      (scratchBegin "tool" "../../../out").Asks (.ofName "tool")
        (scratchDispatch "tool" "../../../out") ∧
      destination ["work"] ((AgentExecutor.ofName "tool").answerPath
        (scratchDispatch "tool" "../../../out").order) = ["work", "out__A.1.output.json"] ∧
      (scratchFiles.get? ["work", "out__A.1.output.json"]).isSome ∧
      (scratchBegin "tool" "../../../out").turned.session.workspace.files.get?
        ["work", "out__A.1.output.json"] = none ∧
      (scratchConfig "../../out").fault? = none ∧
      (scratchBegin "../../out" "Main").Asks (.ofName "../../out")
        (scratchDispatch "../../out" "Main") ∧
      destination ["work"] ((AgentExecutor.ofName "../../out").schemaPath
        (scratchDispatch "../../out" "Main").order) = ["work", "out", "output.schema.json"] := by
  have group := scratchBegin_asks "tool" "../../../out" ⟨by decide, by decide⟩ (by decide +kernel)
  have name := scratchBegin_asks "../../out" "Main" ⟨by decide, by decide⟩ (by decide +kernel)
  exact ⟨by decide, group, by decide +kernel, by decide, by decide +kernel,
    by decide, name, by decide⟩

end StepGraph
