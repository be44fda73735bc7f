import StepGraph.Engine.Step
import StepGraph.Json.Printer
import StepGraph.Snapshot
import StepGraph.Text.Hex

/-! Running a manifest. A run goes on, iteration by iteration, until no step is
next, a pause is requested, the limit is reached or an error ends it. Each
iteration that succeeds publishes a snapshot, and so does the end of the run or
a pause. A run need not end by itself, so driving it takes fuel; `none` means
that the fuel was used up, and never that the run has ended. -/
namespace StepGraph

/-- How a run stopped. -/
inductive Completion
  /-- No step is next. -/
  | completed (iterations : Nat)
  /-- A pause was requested; the step is the first when the run is resumed. -/
  | paused (next : StepId)
  deriving DecidableEq

/-- What changes during a run. -/
structure Session (σ : Type) where
  /-- The state of the service. -/
  service : σ
  workspace : Workspace
  run : RunState
  /-- The work orders handed out, in order. -/
  dispatched : List WorkOrder
  /-- The snapshots published, in order. -/
  published : List Snapshot

/-- The text of the file that holds a snapshot. -/
def Snapshot.fileText (snapshot : Snapshot) : String := Json.pretty snapshot.toData ++ "\n"

/-- Puts a snapshot into files. A file that cannot be written is passed over. -/
def Snapshot.keep (snapshot : Snapshot) (paths : List String) (workspace : Workspace) :
    Workspace :=
  paths.foldl (fun workspace path =>
    ((Workspace.Task.replace path snapshot.fileText).run workspace).2) workspace

/-- The session with another state of the run, and no request to pause. -/
def Session.restarted {σ : Type} (session : Session σ) (run : RunState) : Session σ :=
  { session with run, workspace := session.workspace.clearPause }

namespace Engine

variable {σ : Type}

/-- A session in which nothing has run yet. -/
def newSession (service : σ) (workspace : Workspace) : Session σ :=
  ⟨service, workspace, .blank, [], []⟩

/-- The snapshot of a session. -/
def snapshot (engine : Engine σ) (session : Session σ) (status : RunStatus) : Snapshot :=
  session.run.snapshot engine.manifest.shape status

/-- Publishes a snapshot. -/
def publish (engine : Engine σ) (session : Session σ) (status : RunStatus) : Session σ :=
  let snapshot := engine.snapshot session status
  { session with
    workspace := snapshot.keep engine.snapshotFiles session.workspace
    published := session.published ++ [snapshot] }

/-- Hands out a work order. -/
def execute (engine : Engine σ) (session : Session σ) (order : WorkOrder) :
    Except Failure ExecutorResult × Session σ :=
  let (reply, service, workspace) := engine.service.execute order session.service session.workspace
  (reply, { session with service, workspace, dispatched := session.dispatched ++ [order] })

/-- One iteration. -/
def runStep (engine : Engine σ) (session : Session σ) : Except RunError Unit × Session σ :=
  match engine.dispatch session.run session.service session.workspace.files with
  | .error error => (.error error, session)
  | .ok dispatch =>
    match engine.execute session dispatch.order with
    | (.error failure, session) =>
      (.error (.executorFailed dispatch.id dispatch.step.executor failure), session)
    | (.ok result, session) =>
      let answered := { session.run with payload := result.payload }
      match answered.advance engine.manifest dispatch result.outcome with
      | .error error => (.error error, { session with run := answered })
      | .ok advanced => (.ok (), { session with run := advanced })

/-- Whether a run is at its limit. -/
def limitReached? (engine : Engine σ) (state : RunState) : Option Nat :=
  engine.maxSteps.filter (· ≤ state.iterations)

/-- Goes on until the run stops. -/
def drive (engine : Engine σ) :
    (fuel : Nat) → Session σ → Option (Except RunError Completion × Session σ)
  | 0, _ => none
  | fuel + 1, session =>
    match session.run.current with
    | none =>
      some (.ok (.completed session.run.iterations), engine.publish session .completed)
    | some current =>
      if session.workspace.pauseRequested then
        some (.ok (.paused current), engine.publish session .paused)
      else
        match engine.limitReached? session.run with
        | some limit => some (.error (.stepLimitExceeded limit), session)
        | none =>
          match engine.runStep session with
          | (.error error, session) => some (.error error, session)
          | (.ok _, session) => engine.drive fuel (engine.publish session .running)

/-- Starts a run at a group. A pause requested before is forgotten. -/
def run (engine : Engine σ) (fuel : Nat) (runId group : String) (session : Session σ) :
    Option (Except RunError Completion × Session σ) :=
  match engine.manifest.validateNames with
  | .error error => some (.error error, session)
  | .ok _ =>
    match engine.manifest.entryOf group with
    | .error error => some (.error error, session)
    | .ok entry => engine.drive fuel (session.restarted (.startingAt runId entry))

/-- Goes on with a run that has stopped before its end. -/
def resume (engine : Engine σ) (fuel : Nat) (session : Session σ) :
    Option (Except RunError Completion × Session σ) :=
  if session.run.isFinished then some (.error .nothingToResume, session)
  else
    match engine.manifest.validateNames with
    | .error error => some (.error error, session)
    | .ok _ => engine.drive fuel (session.restarted session.run)

/-- The id of a run that was given none, from the nanoseconds of a clock. -/
def generatedId (nanoseconds : Nat) : String :=
  "run-" ++ String.ofList (Text.Hex.digits nanoseconds)

end Engine
end StepGraph
