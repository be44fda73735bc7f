import StepGraph.Executor.Service

/-! Services that answer from a script. `Script` gives each step a queue of
outcomes and may fail, write files and request a pause on the way; `Replies`
answers one work order after the other, whatever its step. Neither starts a
process, so they are good for rehearsing a manifest. -/
namespace StepGraph

/-- What to answer, and what has been asked so far. -/
structure Script where
  /-- The outcomes that are left for each step. -/
  outcomes : List (StepId × List String)
  /-- The outcome of a step that has none left. -/
  default : String
  /-- The steps that fail. -/
  failures : List StepId
  /-- Files that steps write: the step, a path in the sandbox, and the content. -/
  writes : List (StepId × String × String)
  profiles : List (String × Profile)
  /-- After how many orders to request a pause, once. -/
  pauseAfter : Option Nat
  /-- The orders that have come in. -/
  orders : List WorkOrder

namespace Script

/-- The next outcome of a step, and the outcomes that are left. -/
def takeOutcome (id : StepId) : List (StepId × List String) →
    Option String × List (StepId × List String)
  | [] => (none, [])
  | (step, queue) :: rest =>
    if step = id then
      match queue with
      | [] => (none, (step, []) :: rest)
      | outcome :: queue => (some outcome, (step, queue) :: rest)
    else
      let (outcome, rest) := takeOutcome id rest
      (outcome, (step, queue) :: rest)

/-- The step that a work order is for. -/
def stepOf (order : WorkOrder) : Except Failure StepId :=
  match order.metadata? "step_id" with
  | none => .error (.single .noStepInOrder)
  | some raw => (StepId.parse raw).mapError fun invalid => .single (.invalidStepId invalid)

/-- Writes the files of a step, one after the other. -/
def writeAll (sandbox : String) : List (String × String) → FileSystem →
    Except IoError Unit × FileSystem
  | [], files => (.ok (), files)
  | (path, content) :: rest, files =>
    let target := Path.join sandbox path
    let prepared : Except IoError Unit × FileSystem :=
      match Path.parent? target with
      | none => (.ok (), files)
      | some parent => Disk.sound.makeDirectories parent files
    match prepared with
    | (.error error, files) => (.error error, files)
    | (.ok _, files) =>
      match Disk.sound.write target content.toUTF8 files with
      | (.error error, files) => (.error error, files)
      | (.ok _, files) => writeAll sandbox rest files

/-- Whether a pause is due with the order that came in last. -/
def pauseDue (script : Script) : Bool :=
  match script.pauseAfter with
  | some count => count ≤ script.orders.length
  | none => false

/-- Answers a work order. -/
def execute (order : WorkOrder) (script : Script) (workspace : Workspace) :
    Except Failure ExecutorResult × Script × Workspace :=
  match stepOf order with
  | .error failure => (.error failure, script, workspace)
  | .ok id =>
    let script := { script with orders := script.orders ++ [order] }
    let (script, workspace) :=
      if script.pauseDue then ({ script with pauseAfter := none }, workspace.requestPause)
      else (script, workspace)
    if script.failures.contains id then (.error (.single (.scripted id)), script, workspace)
    else
      let writes := (script.writes.filter (·.1 = id)).map Prod.snd
      match writeAll order.sandbox writes workspace.files with
      | (.error error, files) => (.error (.single (.io error)), script, { workspace with files })
      | (.ok _, files) =>
        let (queued, outcomes) := takeOutcome id script.outcomes
        let outcome := queued.getD script.default
        let entry : Entry := ⟨order.entryId "message", Kind.message, s!"{id.text} -> {outcome}"⟩
        (.ok ⟨order.historyWith entry, outcome⟩, { script with outcomes },
          { workspace with files })

/-- The service that answers from a script. -/
def service : Service Script where
  profile? script name := script.profiles.lookup name
  execute := execute

end Script

/-- The history that a reply hands back. -/
inductive ReplyPayload
  /-- The history of the step with entries behind it. -/
  | append (entries : Payload)
  /-- The whole context. -/
  | context
  | exactly (payload : Payload)
  /-- A payload that does not read. -/
  | unreadable

/-- One reply. -/
structure Reply where
  pause : Bool
  /-- What to fail with. -/
  failure : Option String
  payload : ReplyPayload
  outcome : String

/-- The replies that are left, and the orders that have come in. -/
structure Replies where
  left : List Reply
  orders : List WorkOrder

namespace Replies

/-- What a reply makes of a work order. -/
def answer (order : WorkOrder) (reply : Reply) : Except Failure ExecutorResult :=
  match reply.failure with
  | some message => .error (.single (.stated message))
  | none =>
    match reply.payload with
    | .append entries => .ok ⟨order.context.conversation ++ entries, reply.outcome⟩
    | .context => .ok ⟨order.context, reply.outcome⟩
    | .exactly payload => .ok ⟨payload, reply.outcome⟩
    | .unreadable => .error (.single .json)

/-- Answers a work order with the next reply. -/
def execute (order : WorkOrder) (replies : Replies) (workspace : Workspace) :
    Except Failure ExecutorResult × Replies × Workspace :=
  let orders := replies.orders ++ [order]
  match replies.left with
  | [] => (.error (.single .noReplyLeft), ⟨[], orders⟩, workspace)
  | reply :: left =>
    (answer order reply, ⟨left, orders⟩,
      if reply.pause then workspace.requestPause else workspace)

/-- The service that answers with one reply after the other. -/
def service : Service Replies where
  profile? _ _ := none
  execute := execute

end Replies
end StepGraph
