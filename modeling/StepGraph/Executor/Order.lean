import StepGraph.Context

/-! Work orders and results: what an executor is handed for one step, and what it
hands back. An executor learns about its step from the metadata entries of the
context, and takes the first entry of an id as the one that counts. -/
namespace StepGraph

/-- What an executor is handed for one step. -/
structure WorkOrder where
  executor : String
  context : Payload
  sandbox : String
  deriving DecidableEq

/-- What an executor hands back: the new history, and how the step went. -/
structure ExecutorResult where
  payload : Payload
  outcome : String
  deriving DecidableEq

namespace WorkOrder

/-- A fact about the run that the context tells. -/
def metadata? (order : WorkOrder) (key : String) : Option String :=
  (order.context.find? (·.id = metadataId key)).map Entry.content

/-- The id for an entry that the executor adds to the history. -/
def entryId (order : WorkOrder) (kind : String) : String :=
  let step := (order.metadata? "step_id").getD "unknown"
  let iteration := (order.metadata? "iteration").getD "0"
  s!"{kind}:{step}:{iteration}"

/-- The history with one more entry behind it. -/
def historyWith (order : WorkOrder) (entry : Entry) : Payload :=
  order.context.conversation ++ [entry]

/-- Reads a work order. -/
def ofData? (data : Data) : Option WorkOrder := do
  match ← data.fields? ["executor_ref", "context", "sandbox_path"] with
  | [executor, context, sandbox] =>
    some ⟨← executor.required Data.text?, ← context.required Payload.ofData?,
      ← sandbox.required Data.text?⟩
  | _ => none

/-- A work order as data. -/
def toData (order : WorkOrder) : Data :=
  .record [("executor_ref", .text order.executor), ("context", Payload.toData order.context),
    ("sandbox_path", .text order.sandbox)]

end WorkOrder

namespace ExecutorResult

/-- Reads a result. -/
def ofData? (data : Data) : Option ExecutorResult := do
  match ← data.fields? ["new_payload", "outcome"] with
  | [payload, outcome] => some ⟨← payload.required Payload.ofData?, ← outcome.required Data.text?⟩
  | _ => none

/-- A result as data. -/
def toData (result : ExecutorResult) : Data :=
  .record [("new_payload", Payload.toData result.payload), ("outcome", .text result.outcome)]

end ExecutorResult
end StepGraph
