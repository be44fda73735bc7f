import StepGraph.Proofs.Executor.Answers
import StepGraph.Proofs.Executor.Scratch
import StepGraph.Proofs.FileSystem.Absence
import StepGraph.Proofs.FileSystem.Tree

/-! Whose answer an agent gives. An answer counts when the program has exited well, and it is read
from a path under which nothing was found when the program was started: what was found there
before has been taken away. But what is not found need not be missing. A path that leads up through
a directory that is still to be made finds nothing, and once the program has made that directory
the path leads to what an earlier attempt has left. Only where a path does not lead up is its
destination free as well. -/
namespace StepGraph

open FileSystem (destination names)

variable {agent : AgentExecutor} {launch : Launcher} {order : WorkOrder}
  {workspace started final : Workspace} {files changed : FileSystem} {said : AgentAnswer}
  {result : ExecutorResult} {path : String} {cwd : Location}

/-- A program that has run has been started, and what it leaves of the files is left. -/
theorem ProcessRequest.run_eq_ok {request : ProcessRequest} {output : ProcessOutput}
    (ran : (request.run launch).run workspace = (.ok output, final)) :
    ∃ program arguments child files, request.argv = program :: arguments ∧
      launch program arguments request workspace.files = (.ok child, files) ∧
      output = child.output request.outputLimit ∧ final.files = files := by
  unfold Workspace.Task.run ProcessRequest.run at ran
  split at ran
  · cases ran
  · rename_i program arguments given
    split at ran
    · cases ran
    · rename_i child files launched
      cases ran
      refine ⟨program, arguments, child, files, given, launched, rfl, ?_⟩
      cases child.interrupts <;> rfl

namespace AgentExecutor

/-- Before the program starts, the directory and the schema are there, and an answer that was found
has been taken away. -/
theorem prepare_eq_ok {done : Unit}
    (prepared : (agent.prepare order).run workspace = (.ok done, started)) :
    ∃ made schema written,
      Disk.sound.makeDirectories (agent.directory order) workspace.files = (.ok (), made) ∧
      made.write (agent.schemaPath order) schema = .ok written ∧
      ((written.exists? (agent.answerPath order) = false ∧ started.files = written) ∨
        written.removeFile (agent.answerPath order) = .ok started.files) := by
  obtain ⟨_, _, making, prepared⟩ := Workspace.Task.bind_eq_ok.mp prepared
  obtain ⟨grown, made, rfl⟩ := Workspace.Task.change_eq_ok.mp making
  obtain ⟨_, _, writing, prepared⟩ := Workspace.Task.bind_eq_ok.mp prepared
  obtain ⟨written, wrote, rfl⟩ := Workspace.Task.change_eq_ok.mp writing
  obtain ⟨there, _, asking, prepared⟩ := Workspace.Task.bind_eq_ok.mp prepared
  obtain ⟨found, rfl⟩ := Workspace.Task.ask_eq_ok.mp asking
  refine ⟨grown, _, written, made, Disk.Lawful.written wrote, ?_⟩
  cases there with
  | false =>
    obtain ⟨_, rfl⟩ := Workspace.Task.pure_eq_ok.mp prepared
    exact Or.inl ⟨found, rfl⟩
  | true =>
    obtain ⟨left, removed, rfl⟩ := Workspace.Task.change_eq_ok.mp prepared
    exact Or.inr (Disk.allOrNothing_eq_ok (·.removeFile (agent.answerPath order)) removed)

/-- Nothing is found under the path of the answer when the program starts. -/
theorem absent_of_prepare {done : Unit}
    (prepared : (agent.prepare order).run workspace = (.ok done, started)) :
    started.files.exists? (agent.answerPath order) = false := by
  obtain ⟨_, _, written, _, _, ⟨absent, same⟩ | removed⟩ := prepare_eq_ok prepared
  · rwa [same]
  · exact FileSystem.not_exists_of_removeFile removed

private theorem isTree_of_prepare {done : Unit} (tree : workspace.files.IsTree)
    (prepared : (agent.prepare order).run workspace = (.ok done, started)) :
    started.files.IsTree := by
  obtain ⟨_, _, written, made, wrote, ⟨_, same⟩ | removed⟩ := prepare_eq_ok prepared
  · rw [same]
    exact FileSystem.isTree_of_write (FileSystem.isTree_of_makeDirectories tree made) wrote
  · exact FileSystem.isTree_of_removeFile
      (FileSystem.isTree_of_write (FileSystem.isTree_of_makeDirectories tree made) wrote) removed

/-- The path of the directory can be walked when the program starts, for the schema has been put
there. -/
theorem reaches_of_prepare {done : Unit}
    (prepared : (agent.prepare order).run workspace = (.ok done, started)) :
    ∃ place, started.files.walk
      (if Path.isAbsolute (agent.directory order) then [] else started.files.cwd)
      (names (agent.directory order)) = .ok place := by
  obtain ⟨made, _, written, _, wrote, removed⟩ := prepare_eq_ok prepared
  obtain ⟨_, _, _, leads, _, vacant, put⟩ := FileSystem.write_eq_ok wrote
  have isName : FileSystem.IsName "output.schema.json" := by decide
  have relative := FileSystem.isAbsolute_of_isName isName
  have walked := leads.walk
  rw [schemaPath, FileSystem.names_join relative, FileSystem.names_of_isName isName,
    Path.isAbsolute_join relative] at walked
  obtain ⟨place, along, _⟩ := FileSystem.walk_append_eq_ok walked
  have kept : made.KeepsDirectories written := put ▸ FileSystem.keepsDirectories_put vacant
  have stays : written.cwd = made.cwd := by rw [put]; rfl
  rw [← stays] at along
  have still := FileSystem.walk_of_keepsDirectories kept along
  rcases removed with ⟨_, same⟩ | removed
  · rw [same]
    exact ⟨place, still⟩
  · obtain ⟨_, _, _, free, same⟩ := FileSystem.removeFile_eq_ok removed
    rw [same]
    refine ⟨place, ?_⟩
    exact FileSystem.walk_of_keepsDirectories (FileSystem.keepsDirectories_remove free) still

private theorem readAnswer_eq_ok : readAnswer path files = .ok said ↔
    ∃ content text, files.read path = .ok content ∧ Text.Utf8.strict? content = some text ∧
      AgentAnswer.ofText? text = some said := by
  unfold readAnswer
  constructor
  · intro answered
    split at answered
    · obtain ⟨text, held, answered⟩ := bind_eq_ok.mp answered
      obtain ⟨content, held, decoded⟩ := bind_eq_ok.mp (mapError_eq_ok.mp held)
      split at decoded
      · rename_i strict
        cases decoded
        split at answered
        · rename_i understood
          cases answered
          exact ⟨content, text, held, strict, understood⟩
        · cases answered
      · cases decoded
    · cases answered
  · rintro ⟨content, text, held, strict, understood⟩
    have decoded : files.readText path = .ok text := by
      rw [FileSystem.readText, held]
      simp only [bind, Except.bind, strict]
    rw [if_pos (FileSystem.exists_of_read held), decoded]
    simp only [attemptingIo, Except.mapError, bind, Except.bind, understood]

/-- Wherever the files of an order are, its answer is another than its log. -/
theorem answer_ne_log : destination cwd (agent.answerPath order) ≠
    destination cwd (agent.logPath order) := by
  obtain ⟨place, last, ends⟩ :=
    FileSystem.destination_join_append cwd (agent.directory order) (attempt order)
  rw [answerPath, logPath, ends _ (by decide) (by decide), ends _ (by decide) (by decide)]
  intro same
  have texts := congrArg String.length (List.singleton_inj.mp (List.append_inj_right' same rfl))
  rw [String.length_append, String.length_append] at texts
  exact absurd (Nat.add_left_cancel texts) (by decide)

/-- An agent whose ending is no fault has exited well. -/
theorem exited_of_endingFault? {child : Child}
    (faultless : agent.endingFault? order (child.output agent.outputLimit) = none) :
    child.ending = .exited 0 := by
  unfold endingFault? at faultless
  split at faultless
  · cases faultless
  · split at faultless
    · rename_i succeeded
      exact of_decide_eq_true succeeded
    · cases faultless

/-- How an attempt of an agent succeeds: nothing is found under the path of the answer when the
program starts; it exits well; and the answer is read from the files as it leaves them. -/
structure Succeeds (agent : AgentExecutor) (launch : Launcher) (order : WorkOrder)
    (workspace started : Workspace) (child : Child) (ended : FileSystem) (said : AgentAnswer) :
    Prop where
  prepared : (agent.prepare order).run workspace = (.ok (), started)
  absent : started.files.exists? (agent.answerPath order) = false
  launched : launch agent.program (agent.argv order).tail (agent.request order) started.files =
    (.ok child, ended)
  exited : child.ending = .exited 0
  answered : readAnswer (agent.answerPath order) ended = .ok said

private theorem succeeds_of_handle
    (handled : (agent.handle launch order).run workspace = (.ok result, final)) :
    ∃ started child ended said, agent.Succeeds launch order workspace started child ended said ∧
      result = ⟨order.historyWith ⟨order.entryId "message", Kind.message, said.summary⟩,
        said.outcome⟩ := by
  obtain ⟨_, started, prepared, handled⟩ := Workspace.Task.bind_eq_ok.mp handled
  obtain ⟨output, left, ran, handled⟩ := Workspace.Task.bind_eq_ok.mp handled
  obtain ⟨_, _, writing, handled⟩ := Workspace.Task.bind_eq_ok.mp handled
  obtain ⟨logged, wrote, rfl⟩ := Workspace.Task.change_eq_ok.mp writing
  obtain ⟨_, _, child, ended, given, launched, rfl, same⟩ :=
    ProcessRequest.run_eq_ok (Workspace.Task.during_eq_ok.mp ran)
  cases given
  split at handled
  · cases handled
  rename_i faultless
  obtain ⟨said, _, looking, answering⟩ := Workspace.Task.bind_eq_ok.mp handled
  obtain ⟨answered, _⟩ := Workspace.Task.look_eq_ok.mp looking
  obtain ⟨rfl, _⟩ := Workspace.Task.pure_eq_ok.mp answering
  refine ⟨started, child, ended, said, ⟨prepared, absent_of_prepare prepared, launched,
    exited_of_endingFault? faultless, ?_⟩, rfl⟩
  -- The answer is read behind the log, but the log is another file.
  obtain ⟨content, text, held, strict, understood⟩ := readAnswer_eq_ok.mp answered
  have written := Disk.Lawful.written wrote
  rw [same] at written
  have before := FileSystem.read_before_write written answer_ne_log held
  exact readAnswer_eq_ok.mpr ⟨content, text, before, strict, understood⟩

/-- In a tree, nothing is at the destination of the answer when the program of a successful attempt
starts, unless what is told of the attempt leads up. -/
theorem Succeeds.vacant {child : Child} {ended : FileSystem}
    (succeeds : agent.Succeeds launch order workspace started child ended said)
    (tree : workspace.files.IsTree) (flat : ".." ∉ names (attempt order ++ ".output.json")) :
    started.files.get? (destination started.files.cwd (agent.answerPath order)) = none := by
  obtain ⟨content, _, held, _, _⟩ := readAnswer_eq_ok.mp succeeds.answered
  obtain ⟨place, reaches⟩ := reaches_of_prepare succeeds.prepared
  obtain ⟨front, last, ends⟩ := FileSystem.names_append (attempt order)
  have here := isTree_of_prepare tree succeeds.prepared
  exact here.vacant_of_join reaches flat (ends _ (by decide) (by decide))
    (FileSystem.append_ne_of_length_lt (by decide)) held succeeds.absent

end AgentExecutor

/-- An agent succeeds only with an answer that was not found when its program was started: the
program exits well, and outcome and summary are read from what it leaves. In a tree in which what
is told of the attempt does not lead up, nothing was at the destination of the answer, and the file
there is the work of the program. -/
theorem answers_are_fresh
    (handled : (agent.handle launch order).run workspace = (.ok result, final)) :
    ∃ started child ended said, agent.Succeeds launch order workspace started child ended said ∧
      result = ⟨order.historyWith ⟨order.entryId "message", Kind.message, said.summary⟩,
        said.outcome⟩ ∧
      (workspace.files.IsTree → ".." ∉ names (AgentExecutor.attempt order ++ ".output.json") →
        started.files.get? (destination started.files.cwd (agent.answerPath order)) = none ∧
          (ended.cwd = started.files.cwd → ∃ content mode,
            ended.get? (destination started.files.cwd (agent.answerPath order)) =
              some (.file content mode))) := by
  obtain ⟨started, child, ended, said, succeeds, same⟩ := AgentExecutor.succeeds_of_handle handled
  refine ⟨started, child, ended, said, succeeds, same, fun tree flat => ?_⟩
  refine ⟨succeeds.vacant tree flat, fun stays => ?_⟩
  obtain ⟨content, _, held, _, _⟩ := AgentExecutor.readAnswer_eq_ok.mp succeeds.answered
  obtain ⟨_, _, mode, leads, _, here⟩ := FileSystem.leads_of_read held
  rw [leads.eq_destination, stays] at here
  exact ⟨content, mode, here⟩

/-- The place of the answers of an order for the step `A` of a group that is named like a file, or
leads there. -/
def answerPlace : Location := ["work", "box", ".graph-runner", "tool", "Main__A.1.output.json"]

/-- What becomes of such an order in a workspace. -/
def scratchAttempt (launch : Launcher) (group : String) (workspace : Workspace) :
    Except Failure ExecutorResult × Workspace :=
  ((AgentExecutor.ofName "tool").handle launch (scratchDispatch "tool" group).order).run workspace

/-- What it leaves of a fresh one. -/
def scratchAttempted (launch : Launcher) (group : String) : Workspace :=
  (scratchAttempt launch group ⟨.fresh ["work", "box"], false⟩).2

/-- The second of two attempts. -/
def secondAttempt : Except Failure ExecutorResult × Workspace :=
  scratchAttempt (answering "FAILURE") "Main" (scratchAttempted (answering "SUCCESS") "Main")

/-- The answer of an earlier attempt is gone when the program of the next one starts, which gives
another answer. -/
theorem earlier_answer_is_gone :
    ((scratchAttempted (answering "SUCCESS") "Main").files.get? answerPlace).isSome ∧
      ∃ started child ended said,
        (AgentExecutor.ofName "tool").Succeeds (answering "FAILURE")
          (scratchDispatch "tool" "Main").order (scratchAttempted (answering "SUCCESS") "Main")
          started child ended said ∧
        started.files.get? answerPlace = none ∧ said.outcome = "FAILURE" := by
  obtain ⟨left, tree, again⟩ :
      ((scratchAttempted (answering "SUCCESS") "Main").files.get? answerPlace).isSome ∧
        (scratchAttempted (answering "SUCCESS") "Main").files.IsTree ∧
        secondAttempt.1 = .ok ⟨[⟨"message:Main__A:1", Kind.message, "done"⟩], "FAILURE"⟩ := by
    decide +kernel
  have handled : secondAttempt =
      (.ok ⟨[⟨"message:Main__A:1", Kind.message, "done"⟩], "FAILURE"⟩, secondAttempt.2) := by
    rw [← again]
  obtain ⟨started, child, ended, said, succeeds, same, vacant⟩ := answers_are_fresh handled
  have place : ∀ cwd, destination cwd ((AgentExecutor.ofName "tool").answerPath
      (scratchDispatch "tool" "Main").order) = answerPlace := by
    intro cwd
    rw [destination, if_pos (by decide +kernel)]
    decide +kernel
  have gone := (vacant tree (by decide +kernel)).1
  rw [place] at gone
  refine ⟨left, started, child, ended, said, succeeds, gone, ?_⟩
  exact (congrArg ExecutorResult.outcome same).symm

/-- A directory that nobody has made. -/
def sidestep : Location := ["work", "box", ".graph-runner", "tool", "x"]

/-- A program that makes the directory, answers, and takes the directory away. -/
def leaving (outcome : String) : Launcher := fun program arguments request files =>
  let (child, answered) :=
    answering outcome program arguments request (files.put sidestep .directory)
  (child, answered.remove sidestep)

/-- A program that makes the directory and does nothing else. -/
def entering : Launcher := fun _ _ _ files =>
  (.ok ⟨[], [], .exited 0, false⟩, files.put sidestep .directory)

/-- A group whose name leads up passes all checks. An attempt at its step fails and leaves an answer
behind, which is not found by the next attempt until the program of that has made a directory; and
then it counts, though that program has not given it. -/
theorem left_answer_is_taken :
    (scratchBegin "tool" "x/../Main").Asks (.ofName "tool") (scratchDispatch "tool" "x/../Main") ∧
      (scratchAttempt (leaving "SUCCESS") "x/../Main" ⟨.fresh ["work", "box"], false⟩).1 =
        .error (.refused (.writeAgentLog "/work/box/.graph-runner/tool/x/../Main__A.1.log")
          .notFound) ∧
      ((scratchAttempted (leaving "SUCCESS") "x/../Main").files.get? answerPlace).isSome ∧
      (scratchAttempt entering "x/../Main" (scratchAttempted (leaving "SUCCESS") "x/../Main")).1 =
        .ok ⟨[⟨"message:x/../Main__A:1", Kind.message, "done"⟩], "SUCCESS"⟩ := by
  have asks := scratchBegin_asks "tool" "x/../Main" ⟨by decide, by decide⟩ (by decide +kernel)
  exact ⟨asks, by decide +kernel⟩

end StepGraph
