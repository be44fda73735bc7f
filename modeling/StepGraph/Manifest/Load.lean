import StepGraph.FileSystem.Basic
import StepGraph.Json.Parser
import StepGraph.Manifest
import StepGraph.Toml.Parser

/-! Loading a manifest from a file. The end of the file's name says whether it
holds TOML or JSON. A manifest that is loaded has been checked: the names of all
its steps form ids. -/
namespace StepGraph.Manifest

/-- The formats of a manifest. -/
inductive Format
  | toml
  | json
  deriving DecidableEq

/-- The format that the end of a file's name says. -/
def Format.ofPath? (path : String) : Option Format :=
  match Path.extension? path with
  | some "toml" => some .toml
  | some "json" => some .json
  | _ => none

/-- Reads a manifest from a text. Of a text that is refused the format is kept, not what
its parser says. -/
def ofText (format : Format) (text : String) : Except Failure Manifest :=
  match format with
  | .toml =>
    match (Toml.parse? text).bind ofData? with
    | some manifest => .ok manifest
    | none => .error (.single .toml)
  | .json =>
    match (Json.parse? text).bind ofData? with
    | some manifest => .ok manifest
    | none => .error (.single .json)

/-- A manifest that has been read, if its names form ids. -/
def checked (manifest : Manifest) : Except Failure Manifest :=
  match manifest.invalidName? with
  | some invalid => .error (.single (.invalidStepId invalid))
  | none => .ok manifest

/-- Loads a manifest. -/
def load (files : FileSystem) (path : String) : Except Failure Manifest := do
  let text ← attemptingIo (.readManifest path) (files.readText path)
  match Format.ofPath? path with
  | none => .error (.single (.unsupportedManifest path))
  | some format =>
    let manifest ← attempting (.parseManifest path) (ofText format text)
    attempting (.validateManifest path) manifest.checked

end StepGraph.Manifest
