import StepGraph.Context
import StepGraph.FileSystem.Basic
import StepGraph.Text.Blank

/-! Reading artifacts. A step names the files it wants to see by paths inside the
sandbox; they are read anew before every run of the step. A file that does not
exist yet is no error, but a path that could lead out of the sandbox is. -/
namespace StepGraph

/-- Why a component may not stand in the path of an artifact. -/
def Path.Component.artifactFault? (path : String) : Path.Component → Option Fault
  | .name _ => none
  | .here => none
  | .above => some (.escapingArtifactPath path)
  | .root => some (.absoluteArtifactPath path)

/-- Why a path may not be that of an artifact. -/
def artifactPathFault? (path : String) : Option Fault :=
  if Text.isBlankText path then some .emptyArtifactPath
  else (Path.components path).findSome? (·.artifactFault? path)

/-- Reads an artifact of a sandbox. -/
def FileSystem.readArtifact (files : FileSystem) (sandbox path : String) :
    Except Failure Artifact :=
  match artifactPathFault? path with
  | some fault => .error (.single fault)
  | none =>
    let place := Path.join sandbox path
    match files.read place with
    | .ok content => .ok ⟨path, some (Text.Utf8.lossy content.toList)⟩
    | .error .notFound => .ok ⟨path, none⟩
    | .error error => .error (.refused (.readArtifact place) error)

end StepGraph
