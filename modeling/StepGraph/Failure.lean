import StepGraph.StepId
import StepGraph.Text.Duration

/-! Failures of the things around a run: files, documents, settings, processes.
A failure is a chain of faults, the outermost first; each fault says what was
being attempted when the next one happened. Faults are data; `Fault.message`
puts them into words.

Left out is what a parser says of a text that it refuses, and where in the text. Such
a fault is `Fault.json` or `Fault.toml` and nothing more; the fault in front of it in the
chain names the document and its path. -/
namespace StepGraph

/-- Why a file operation was refused. -/
inductive IoError
  | notFound
  | isADirectory
  | notADirectory
  | alreadyExists
  | permissionDenied
  | directoryNotEmpty
  | resourceBusy
  | invalidFilename
  /-- A file that is to be run is no program. -/
  | noProgram
  /-- Scripts that are to be run by one another. -/
  | endlessChain
  /-- A descriptor that is closed, or not open for this use. -/
  | badDescriptor
  /-- The bytes are no text. -/
  | invalidData
  /-- A name holds the character NUL. -/
  | invalidInput
  /-- An argument of a program holds the character NUL. -/
  | nulInArgument
  deriving DecidableEq

/-- A refusal as a system puts it. -/
def IoError.reason : IoError → String
  | .notFound => "No such file or directory"
  | .isADirectory => "Is a directory"
  | .notADirectory => "Not a directory"
  | .alreadyExists => "File exists"
  | .permissionDenied => "Permission denied"
  | .directoryNotEmpty => "Directory not empty"
  | .resourceBusy => "Device or resource busy"
  | .invalidFilename => "File name too long"
  | .noProgram => "Exec format error"
  | .endlessChain => "Too many levels of symbolic links"
  | .badDescriptor => "Bad file descriptor"
  | .invalidData => "stream did not contain valid UTF-8"
  | .invalidInput => "file name contained an unexpected NUL byte"
  | .nulInArgument => "nul byte found in provided data"

/-- The number that a system gives to a refusal of its own. -/
def IoError.number? : IoError → Option Nat
  | .notFound => some 2
  | .isADirectory => some 21
  | .notADirectory => some 20
  | .alreadyExists => some 17
  | .permissionDenied => some 13
  | .directoryNotEmpty => some 39
  | .resourceBusy => some 16
  | .invalidFilename => some 36
  | .noProgram => some 8
  | .endlessChain => some 40
  | .badDescriptor => some 9
  | .invalidData | .invalidInput | .nulInArgument => none

/-- A refusal in words. -/
def IoError.message (error : IoError) : String :=
  match error.number? with
  | some number => s!"{error.reason} (os error {Text.Decimal.text number})"
  | none => error.reason

/-- One fault of a chain. -/
inductive Fault
  | io (error : IoError)
  /-- A JSON text that is none, or does not say what was expected. What is wrong with it,
  in which line and column, is left out. -/
  | json
  /-- A TOML text that is none, or does not say what was expected. What is wrong with it,
  and where, is left out. -/
  | toml
  | invalidStepId (invalid : StepId.Invalid)
  /-- What an executor says about its own failure. -/
  | stated (message : String)
  -- documents
  | readManifest (path : String)
  | parseManifest (path : String)
  | unsupportedManifest (path : String)
  | validateManifest (path : String)
  | readRunState (path : String)
  | parseRunState (path : String)
  | load (path : String)
  | read (path : String)
  | parse (path : String)
  -- replacing a file
  | noParent (path : String)
  | createDirectory (path : String)
  | noFileName (path : String)
  | writeTemporary (path : String)
  | replace (path : String)
  -- artifacts and sandboxes
  | emptyArtifactPath
  | escapingArtifactPath (path : String)
  | absoluteArtifactPath (path : String)
  | readArtifact (path : String)
  | sandboxNotDirectory (path : String)
  | canonicalizeSandbox (path : String)
  -- settings
  | zeroStepLimit
  | emptySnapshotPath
  | emptyRunStatePath
  | inExecutor (name : String)
  | emptyCommandLine
  | emptyProgram
  | noOutcomes
  | zeroTimeout
  | zeroPromptBudget
  | zeroOutputLimit
  | blankOutcome
  | reservedOutcome
  -- executors
  | executorTaken (name : String)
  | executorUnknown (name : String)
  | noStepInOrder
  | scripted (step : StepId)
  | noReplyLeft
  -- processes and agents
  | noProgram
  | spawn (program : String)
  | run (program : String)
  | createScratch (path : String)
  | write (path : String)
  | removeStaleOutput (path : String)
  | writeAgentLog (path : String)
  | agentTimedOut (program : String) (milliseconds : Nat)
  | agentFailed (program : String) (code : Option Nat) (log : String)
  | missingAgentOutput (path : String)
  | readAgentOutput (path : String)
  deriving DecidableEq

/-- An exit code as it is quoted in messages. -/
def quoteCode : Option Nat → String
  | some code => s!"Some({Text.Decimal.text code})"
  | none => "None"

/-- A fault in words. Of the two faults of parsers, whose own words are left out, it is
said only which they are. -/
def Fault.message : Fault → String
  | .io error => error.message
  | .json => "not the expected JSON"
  | .toml => "not the expected TOML"
  | .invalidStepId invalid => invalid.message
  | .stated message => message
  | .readManifest path => s!"read manifest {path}"
  | .parseManifest path => s!"parse manifest {path}"
  | .unsupportedManifest path =>
    s!"unsupported manifest format {path} (expected .toml or .json)"
  | .validateManifest path => s!"validate manifest {path}"
  | .readRunState path => s!"read run state {path}"
  | .parseRunState path => s!"parse run state {path}"
  | .load path => s!"load {path}"
  | .read path => s!"read {path}"
  | .parse path => s!"parse {path}"
  | .noParent path => s!"path missing parent {path}"
  | .createDirectory path => s!"create directory {path}"
  | .noFileName path => s!"path missing file name {path}"
  | .writeTemporary path => s!"write temp file {path}"
  | .replace path => s!"replace {path}"
  | .emptyArtifactPath => "artifact path is empty"
  | .escapingArtifactPath path => s!"artifact path escapes the sandbox: {path}"
  | .absoluteArtifactPath path => s!"artifact path must be relative: {path}"
  | .readArtifact path => s!"read artifact {path}"
  | .sandboxNotDirectory path => s!"sandbox is not a directory: {path}"
  | .canonicalizeSandbox path => s!"canonicalize sandbox {path}"
  | .zeroStepLimit => "max_steps must be > 0 when set"
  | .emptySnapshotPath => "snapshot_path must not be empty"
  | .emptyRunStatePath => "run_state_path must not be empty"
  | .inExecutor name => s!"executors.{name}"
  | .emptyCommandLine => "command must be a non-empty array"
  | .emptyProgram => "program must not be empty"
  | .noOutcomes => "outcomes must not be empty"
  | .zeroTimeout => "timeout_secs must be > 0"
  | .zeroPromptBudget => "prompt_budget_bytes must be > 0"
  | .zeroOutputLimit => "output_limit_bytes must be > 0"
  | .blankOutcome => "outcome keywords must not be empty"
  | .reservedOutcome => "FALLBACK is reserved and cannot be emitted"
  | .executorTaken name => s!"executor '{name}' is already registered"
  | .executorUnknown name => s!"no executor registered under '{name}'"
  | .noStepInOrder => "work order without step_id"
  | .scripted step => s!"scripted failure at {step.text}"
  | .noReplyLeft => "no reply left"
  | .noProgram => "empty command"
  | .spawn program => s!"spawn {program}"
  | .run program => s!"run {program}"
  | .createScratch path => s!"create scratch dir {path}"
  | .write path => s!"write {path}"
  | .removeStaleOutput path => s!"remove stale output {path}"
  | .writeAgentLog path => s!"write agent log {path}"
  | .agentTimedOut program milliseconds =>
    s!"{program} timed out after {Text.duration milliseconds}"
  | .agentFailed program code log => s!"{program} failed with status {quoteCode code} (see {log})"
  | .missingAgentOutput path => s!"missing agent output {path}"
  | .readAgentOutput path => s!"read agent output {path}"

/-- A chain of faults: `fault` happened because of the first of `causes`, that
one because of the second, and so on. -/
structure Failure where
  fault : Fault
  causes : List Fault
  deriving DecidableEq

namespace Failure

/-- The failure that is one fault. -/
def single (fault : Fault) : Failure := ⟨fault, []⟩

/-- The failure of `attempt` because of `failure`. -/
def during (attempt : Fault) (failure : Failure) : Failure :=
  ⟨attempt, failure.fault :: failure.causes⟩

/-- The failure of `attempt` because a file operation was refused. -/
def refused (attempt : Fault) (error : IoError) : Failure := ⟨attempt, [.io error]⟩

/-- The whole chain on one line. -/
def message (failure : Failure) : String :=
  ": ".intercalate (failure.fault :: failure.causes |>.map Fault.message)

end Failure

/-- Says what was being attempted when a failure happened. -/
def attempting {α : Type} (attempt : Fault) (result : Except Failure α) : Except Failure α :=
  result.mapError (Failure.during attempt)

/-- Says what was being attempted when a file operation was refused. -/
def attemptingIo {α : Type} (attempt : Fault) (result : Except IoError α) : Except Failure α :=
  result.mapError (Failure.refused attempt)

end StepGraph
