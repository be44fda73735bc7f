import StepGraph.Data

/-! The payload: the running history that steps hand on, and the entries of the
context that a step sees. Both are plain lists of entries. Some kinds of entries
are written anew for every step; `conversation` keeps the rest. -/
namespace StepGraph

/-- One piece of context: what it is called, what kind it is, and its text. -/
structure Entry where
  id : String
  kind : String
  content : String
  deriving DecidableEq

/-- Entries in order, oldest first. -/
abbrev Payload := List Entry

/-! ## Kinds -/
namespace Kind

def instructions : String := "instructions"
def persona : String := "persona"
def settings : String := "executor_config"
def staticContext : String := "static_context"
def artifact : String := "artifact"
def metadata : String := "metadata"
/-- What a model says. -/
def message : String := "message"
/-- What a tool prints. -/
def toolOutput : String := "tool_output"

/-- The kinds that are written anew for every step. -/
def reserved : List String :=
  [instructions, persona, settings, staticContext, artifact, metadata]

/-- Whether entries of this kind are written anew for every step. -/
def isReserved (kind : String) : Bool := reserved.contains kind

end Kind

namespace Entry

/-- Reads an entry. -/
def ofData? (data : Data) : Option Entry := do
  match ← data.fields? ["id", "kind", "content"] with
  | [id, kind, content] =>
    some ⟨← id.required Data.text?, ← kind.required Data.text?, ← content.required Data.text?⟩
  | _ => none

/-- An entry as data. -/
def toData (entry : Entry) : Data :=
  .record [("id", .text entry.id), ("kind", .text entry.kind), ("content", .text entry.content)]

end Entry

namespace Payload

/-- The entries that belong to the running history. -/
def conversation (payload : Payload) : Payload :=
  payload.filter fun entry => !Kind.isReserved entry.kind

/-- The entries of one kind, in order. -/
def ofKind (payload : Payload) (kind : String) : Payload :=
  payload.filter fun entry => entry.kind = kind

/-- Reads a payload. -/
def ofData? (data : Data) : Option Payload := data.list? Entry.ofData?

/-- A payload as data. -/
def toData (payload : Payload) : Data := .list (payload.map Entry.toData)

end Payload
end StepGraph
