import StepGraph.FileSystem.Replace

/-! The world around a run: the files that executors and the engine share, and
the request to pause that may arrive while an executor is at work. -/
namespace StepGraph

/-- The files, and whether a pause has been requested. -/
structure Workspace where
  files : FileSystem
  pauseRequested : Bool

namespace Workspace

/-- Something that is done in a workspace and may fail. What was changed before a
failure stays changed. -/
def Task (α : Type) := Workspace → Except Failure α × Workspace

/-- Does it. -/
def Task.run {α : Type} (task : Task α) (workspace : Workspace) : Except Failure α × Workspace :=
  task workspace

/-- Gives a result without doing anything. -/
def Task.result {α : Type} (value : α) : Task α := fun workspace => (.ok value, workspace)

/-- Fails without doing anything. -/
def Task.fail {α : Type} (failure : Failure) : Task α := fun workspace => (.error failure, workspace)

/-- Does one thing and, unless it fails, the next. -/
def Task.andThen {α β : Type} (task : Task α) (next : α → Task β) : Task β := fun workspace =>
  match task workspace with
  | (.ok value, workspace) => next value workspace
  | (.error failure, workspace) => (.error failure, workspace)

instance : Monad Task where
  pure := Task.result
  bind := Task.andThen

/-- Says what was being attempted when a failure happened. -/
def Task.during {α : Type} (task : Task α) (attempt : Fault) : Task α := fun workspace =>
  match task workspace with
  | (.ok value, workspace) => (.ok value, workspace)
  | (.error failure, workspace) => (.error (failure.during attempt), workspace)

/-- Looks at the files. -/
def Task.ask {α : Type} (look : FileSystem → α) : Task α := fun workspace =>
  (.ok (look workspace.files), workspace)

/-- Looks at the files, and fails if that does. -/
def Task.look {α : Type} (look : FileSystem → Except Failure α) : Task α := fun workspace =>
  (look workspace.files, workspace)

/-- Changes the files, and says what was being attempted if that is refused. -/
def Task.change (attempt : Fault) (operation : FileSystem → Except IoError Unit × FileSystem) :
    Task Unit := fun workspace =>
  match operation workspace.files with
  | (.ok _, files) => (.ok (), { workspace with files })
  | (.error error, files) => (.error (.refused attempt error), { workspace with files })

/-- Replaces a file at one stroke. -/
def Task.replace (path content : String) : Task Unit := fun workspace =>
  let (outcome, files) := Disk.sound.replace path content.toUTF8 workspace.files
  (outcome, { workspace with files })

/-- Requests a pause. -/
def requestPause (workspace : Workspace) : Workspace := { workspace with pauseRequested := true }

/-- Takes a request to pause back. -/
def clearPause (workspace : Workspace) : Workspace := { workspace with pauseRequested := false }

end Workspace
end StepGraph
