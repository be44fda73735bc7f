import StepGraph.FileSystem.Basic

/-! Sandboxes: the directory that the steps of a run work in. It has to exist, and
is handed on as an absolute path. -/
namespace StepGraph

/-- The absolute path of the directory to work in. -/
def FileSystem.prepareSandbox (files : FileSystem) (path : String) : Except Failure String :=
  if files.isDirectory path then
    attemptingIo (.canonicalizeSandbox path) (files.canonicalize path)
  else .error (.single (.sandboxNotDirectory path))

end StepGraph
