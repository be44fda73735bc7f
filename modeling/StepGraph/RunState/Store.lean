import StepGraph.Json.Parser
import StepGraph.Json.Printer
import StepGraph.RunState
import StepGraph.Workspace

/-! Keeping the state of a run in a file, as pretty JSON with a line break at the
end. The file is replaced at one stroke. -/
namespace StepGraph.RunState

/-- The text of a state's file. -/
def fileText (state : RunState) : String := Json.pretty state.toData ++ "\n"

/-- Reads a state from the text of its file. -/
def ofFileText? (text : String) : Option RunState := (Json.parse? text).bind ofData?

/-- Loads a state from its file. What the parser says of a text that it refuses is left
out. -/
def load (files : FileSystem) (path : String) : Except Failure RunState := do
  let text ← attemptingIo (.readRunState path) (files.readText path)
  match ofFileText? text with
  | some state => .ok state
  | none => .error ⟨.parseRunState path, [.json]⟩

/-- Stores a state in its file. -/
def store (state : RunState) (path : String) : Workspace.Task Unit :=
  .replace path state.fileText

end StepGraph.RunState
