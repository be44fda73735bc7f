import StepGraph.Config
import StepGraph.Toml.Parser
import StepGraph.Toml.Printer
import StepGraph.Workspace

/-! Keeping a configuration in a TOML file. A file that is not there says nothing,
so the defaults hold. Nothing that is wrong is loaded or stored. -/
namespace StepGraph.Config

/-- The text of a configuration's file. -/
def fileText (config : Config) : String := Toml.render config.toFields ++ "\n"

/-- Reads a configuration from the text of its file. -/
def ofFileText? (text : String) : Option Config := (Toml.parse? text).bind ofData?

/-- Loads a configuration. What the parser says of a text that it refuses is left out. -/
def load (files : FileSystem) (path : String) : Except Failure Config := do
  if files.exists? path then
    let text ← attemptingIo (.read path) (files.readText path)
    match ofFileText? text with
    | none => .error ⟨.parse path, [.toml]⟩
    | some config => config.validated
  else default.validated

/-- Stores a configuration. -/
def store (config : Config) (path : String) : Workspace.Task Unit :=
  match config.fault? with
  | some failure => .fail failure
  | none => .replace path config.fileText

end StepGraph.Config
