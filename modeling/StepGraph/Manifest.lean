import StepGraph.Plan
import StepGraph.RunError

/-! The manifest: groups of steps, declared once and unchanged during a run.
Groups are ordered by name. The steps of a group keep the order in which they are
declared, for that order says where a call comes back to. -/
namespace StepGraph

/-- Says which action follows an outcome. -/
structure Transition where
  onOutcome : String
  action : String
  deriving DecidableEq

/-- A step: who runs it, what it is told, and what follows its outcomes. -/
structure Step where
  /-- The name of the executor that runs the step. -/
  executor : String
  instructions : Option String
  /-- How the step selects from the running history. -/
  plan : Plan
  /-- Files that are read before every run of the step. -/
  artifacts : List String
  transitions : List Transition
  deriving DecidableEq

/-- A group of steps. -/
structure Group where
  /-- The step at which calls of the group begin. -/
  entryStep : String
  /-- Whether the context of callers reaches the group's steps. -/
  inherits : Bool
  staticContext : OrderedMap String
  steps : OrderedMap Step
  deriving DecidableEq

/-- All groups by name. -/
structure Manifest where
  groups : SortedMap Group
  deriving DecidableEq

namespace Manifest

/-- The group of that name. -/
def group (manifest : Manifest) (name : String) : Except RunError Group :=
  match manifest.groups.get? name with
  | some group => .ok group
  | none => .error (.unknownGroup name)

/-- The step with that id. -/
def step (manifest : Manifest) (id : StepId) : Except RunError Step := do
  match (← manifest.group id.group).steps.get? id.step with
  | some step => .ok step
  | none => .error (.unknownStep id)

/-- An id that has to be well formed. -/
def validId (group step : String) : Except RunError StepId :=
  (StepId.ofParts group step).mapError RunError.invalidStepId

/-- The step at which a group begins, which has to be declared. -/
def entryOf (manifest : Manifest) (name : String) : Except RunError StepId := do
  let group ← manifest.group name
  let id ← validId name group.entryStep
  if group.steps.contains id.step then .ok id else .error (.unknownStep id)

/-- What follows a name in a list: nothing if the name is not in it. -/
def following? (name : String) : List String → Option (Option String)
  | [] => none
  | head :: rest => if head = name then some rest.head? else following? name rest

/-- The step declared right after one, if it is not the last of its group. -/
def stepAfter (manifest : Manifest) (id : StepId) : Except RunError (Option StepId) := do
  match following? id.step (← manifest.group id.group).steps.keys with
  | none => .error (.unknownStep id)
  | some none => .ok none
  | some (some next) => (validId id.group next).map some

/-- The ids of all declared steps, group by group. They may be ill formed. -/
def stepIds (manifest : Manifest) : List StepId :=
  manifest.groups.entries.flatMap fun (name, group) => group.steps.keys.map fun step => ⟨name, step⟩

/-- The first declared step whose names form no id, and why. -/
def invalidName? (manifest : Manifest) : Option StepId.Invalid :=
  manifest.stepIds.findSome? fun id =>
    match StepId.ofParts id.group id.step with
    | .ok _ => none
    | .error invalid => some invalid

/-- Checks that the names of every declared step form an id. -/
def validateNames (manifest : Manifest) : Except RunError Unit :=
  match manifest.invalidName? with
  | some invalid => .error (.invalidStepId invalid)
  | none => .ok ()

end Manifest

/-! ## As data -/

/-- The fields of `entries` that have a value. -/
def Data.present (entries : List (String × Option Data)) : Data :=
  .record (entries.filterMap fun entry => entry.2.map (entry.1, ·))

namespace Transition

/-- Reads a transition. -/
def ofData? (data : Data) : Option Transition := do
  match ← data.fields? ["on_outcome", "action"] with
  | [onOutcome, action] =>
    some ⟨← onOutcome.required Data.text?, ← action.required Data.text?⟩
  | _ => none

/-- A transition as data. -/
def toData (transition : Transition) : Data :=
  .record [("on_outcome", .text transition.onOutcome), ("action", .text transition.action)]

end Transition

namespace Step

/-- Reads a step; only its executor has to be given. -/
def ofData? (data : Data) : Option Step := do
  match ← data.fields? ["executor", "instructions", "payload_plan", "artifacts", "transitions"] with
  | [executor, instructions, plan, artifacts, transitions] =>
    some {
      executor := ← executor.required Data.text?
      instructions := ← instructions.withDefault none (Data.nullable? Data.text?)
      plan := ← plan.withDefault [] (Data.list? PlanOp.ofData?)
      artifacts := ← artifacts.withDefault [] (Data.list? Data.text?)
      transitions := ← transitions.withDefault [] (Data.list? Transition.ofData?)
    }
  | _ => none

/-- A step as data; what is empty is left out, except the transitions. -/
def toData (step : Step) : Data :=
  .present [
    ("executor", some (.text step.executor)),
    ("instructions", step.instructions.map .text),
    ("payload_plan", nonEmpty (step.plan.map PlanOp.toData)),
    ("artifacts", nonEmpty (step.artifacts.map .text)),
    ("transitions", some (.list (step.transitions.map Transition.toData)))]
where
  nonEmpty (items : List Data) : Option Data :=
    if items.isEmpty then none else some (.list items)

end Step

/-- A map from texts to texts as data. -/
def OrderedMap.toData (map : OrderedMap String) : Data :=
  .record (map.entries.map fun entry => (entry.1, .text entry.2))

namespace Group

/-- Reads a group; only its entry step has to be given. -/
def ofData? (data : Data) : Option Group := do
  match ← data.fields? ["entry_step", "inherits_context", "static_context", "steps"] with
  | [entryStep, inherits, staticContext, steps] =>
    some {
      entryStep := ← entryStep.required Data.text?
      inherits := ← inherits.withDefault true Data.bool?
      staticContext := ← staticContext.withDefault ∅ (Data.orderedMap? Data.text?)
      steps := ← steps.withDefault ∅ (Data.orderedMap? Step.ofData?)
    }
  | _ => none

/-- A group as data. -/
def toData (group : Group) : Data :=
  .record [
    ("entry_step", .text group.entryStep),
    ("inherits_context", .bool group.inherits),
    ("static_context", group.staticContext.toData),
    ("steps", .record (group.steps.entries.map fun entry => (entry.1, entry.2.toData)))]

end Group

namespace Manifest

/-- Reads a manifest: a record of its groups. -/
def ofData? (data : Data) : Option Manifest := (data.sortedMap? Group.ofData?).map Manifest.mk

/-- A manifest as data. -/
def toData (manifest : Manifest) : Data :=
  .record (manifest.groups.entries.map fun entry => (entry.1, entry.2.toData))

end Manifest
end StepGraph
