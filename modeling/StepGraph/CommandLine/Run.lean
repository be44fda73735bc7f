import StepGraph.CommandLine.Arguments
import StepGraph.Config.Store
import StepGraph.Engine.Run
import StepGraph.Executor.Registry
import StepGraph.Manifest.Load
import StepGraph.RunState.Store
import StepGraph.Sandbox

/-! What the program does. A run leaves its state behind however it ends, so that
it can be resumed; a state that cannot be left behind is the error that counts. Left
out is what is logged on the way: nothing reads it, and no file keeps it. -/
namespace StepGraph.CommandLine

/-- What the program prints, and its exit code. -/
structure Report where
  exit : Nat
  stdout : String
  stderr : String
  deriving DecidableEq

namespace Report

/-- All went well. -/
def done (stdout : String) : Report := ⟨0, stdout, ""⟩

/-- An error has ended the program. -/
def failed (message : String) : Report := ⟨1, "", message ++ "\n"⟩

/-- The run has paused. -/
def paused (stdout : String) : Report := ⟨2, stdout, ""⟩

/-- The arguments were wrong. -/
def misused (stderr : String) : Report := ⟨2, "", stderr⟩

end Report

/-- The name and version of the program. -/
def version : String := "graph-runner 0.1.0"

/-- How the program is used, in words of its own. -/
def usage : String :=
  "Usage: graph-runner [-v] <COMMAND>\n\n" ++
  "Commands:\n" ++
  "  run     --manifest <FILE> --sandbox <DIRECTORY> --group <NAME> [--config <FILE>]\n" ++
  "  resume  --manifest <FILE> --sandbox <DIRECTORY> [--config <FILE>]\n" ++
  "  graph   --manifest <FILE>\n"

/-- Where the configuration is, from the sandbox. -/
def defaultConfig : String := ".graph-runner/config.toml"

/-- Shows the graph of a manifest. -/
def showGraph (path : String) (files : FileSystem) : Report :=
  match Manifest.load files path with
  | .ok manifest => .done (Json.pretty manifest.shape.toData ++ "\n")
  | .error failure => .failed failure.message

/-- What is needed for a run. -/
structure Preparation where
  engine : Engine Registry
  registry : Registry
  statePath : String
  /-- The state to go on from, if the run is not a new one. -/
  saved : Option RunState

/-- Prepares a run, or fails at the first thing that is wrong. -/
def prepare (launch : Launcher) (target : Target) (resumes : Bool) (files : FileSystem) :
    Except Failure Preparation := do
  let sandbox ← files.prepareSandbox target.sandbox
  let manifest ← Manifest.load files target.manifest
  let config ← Config.load files (target.config.getD (Path.join sandbox defaultConfig))
  let registry ← Registry.ofConfig config
  let statePath := Path.join sandbox config.runStatePath
  let saved ←
    if resumes then
      some <$> attempting (.load statePath) (RunState.load files statePath)
    else pure none
  return {
    registry, statePath, saved
    engine := {
      manifest, sandbox
      service := Registry.service launch
      maxSteps := config.maxSteps.map UInt64.toNat
      snapshotFiles := [Path.join sandbox config.snapshotPath] } }

/-- An error that ended a run, on one line. -/
def errorLine (runId : String) (error : RunError) : String :=
  ": ".intercalate (s!"run {runId}" :: error.message :: error.causes.map Fault.message)

/-- What is said about the end of a run. -/
def reportOf (runId statePath : String) : Except RunError Completion → Report
  | .ok (.completed iterations) =>
    .done s!"{runId}: completed after {Text.Decimal.text iterations} steps\n"
  | .ok (.paused next) =>
    .paused s!"{runId}: paused before {next.text}; state saved to {statePath}\n"
  | .error error => .failed (errorLine runId error)

/-- Runs what was prepared: from a group on, or on from the saved state. Nothing is
said of a run that outlasts `fuel`. -/
def Preparation.call (prepared : Preparation) (fuel : Nat) (runId : String)
    (group : Option String) (files : FileSystem) :
    Option (Except RunError Completion × Session Registry) :=
  let session := Engine.newSession prepared.registry ⟨files, false⟩
  match group with
  | some group => prepared.engine.run fuel runId group session
  | none => prepared.engine.resume fuel { session with run := prepared.saved.getD session.run }

/-- Runs what was prepared, and leaves the state behind. -/
def conduct (fuel : Nat) (runId : String) (group : Option String) (prepared : Preparation)
    (files : FileSystem) : Option (Report × FileSystem) := do
  let (outcome, session) ← prepared.call fuel runId group files
  match (session.run.store prepared.statePath).run session.workspace with
  | (.error failure, workspace) => return (.failed failure.message, workspace.files)
  | (.ok _, workspace) =>
    return (reportOf session.run.runId prepared.statePath outcome, workspace.files)

/-- Starts a run at a group, or goes on with the one that has been saved. A new run is
named after the time. -/
def carryOut (launch : Launcher) (fuel nanoseconds : Nat) (target : Target)
    (group : Option String) (files : FileSystem) : Option (Report × FileSystem) :=
  match prepare launch target group.isNone files with
  | .error failure => some (.failed failure.message, files)
  | .ok prepared => conduct fuel (Engine.generatedId nanoseconds) group prepared files

/-- Does what the program is asked to do. -/
def perform (launch : Launcher) (fuel nanoseconds : Nat) (arguments : List String)
    (files : FileSystem) : Option (Report × FileSystem) :=
  match read arguments with
  | .version => some (.done (version ++ "\n"), files)
  | .help => some (.done usage, files)
  | .misuse => some (.misused usage, files)
  | .invocation (.graph manifest) => some (showGraph manifest files, files)
  | .invocation (.run target group) => carryOut launch fuel nanoseconds target (some group) files
  | .invocation (.resume target) => carryOut launch fuel nanoseconds target none files

end StepGraph.CommandLine
