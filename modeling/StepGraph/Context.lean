import StepGraph.CallStack

/-! The context that a step sees. It consists of five layers, always in this
order: what the step's plan selects from the running history; what the step and
its executor are told; the static context of the groups that reach the step, the
nearest group first; the artifacts; the facts about the run. -/
namespace StepGraph

/-- What an executor adds to the context of the steps it runs. -/
structure Profile where
  persona : Option String
  settings : OrderedMap String
  deriving DecidableEq

namespace Profile

/-- The profile that adds nothing. -/
def none : Profile := ⟨Option.none, ∅⟩

/-- Reads a profile; nothing has to be given. -/
def ofData? (data : Data) : Option Profile := do
  match ← data.fields? ["persona", "settings"] with
  | [persona, settings] =>
    some ⟨← persona.withDefault Option.none (Data.nullable? Data.text?),
      ← settings.withDefault ∅ (Data.orderedMap? Data.text?)⟩
  | _ => Option.none

/-- A profile as data. -/
def toData (profile : Profile) : Data :=
  .record [("persona", (profile.persona.map .text).getD .null),
    ("settings", profile.settings.toData)]

end Profile

/-- A file of the sandbox, with its content if it exists. -/
structure Artifact where
  path : String
  content : Option String
  deriving DecidableEq

/-- Facts about the run that every step is told. -/
structure RunFacts where
  runId : String
  sandbox : String
  iteration : Nat
  deriving DecidableEq

/-! ## Inheritance -/

/-- Extends a chain of groups by the callers of frames, the innermost frame
first, up to the first group that does not inherit. A group that is in the chain
already stays where it is. -/
def Manifest.ascend (manifest : Manifest) (chain : List String) :
    List Frame → Except RunError (List String)
  | [] => .ok chain
  | frame :: outer =>
    let name := frame.caller.group
    if chain.contains name then manifest.ascend chain outer
    else
      match manifest.group name with
      | .error error => .error error
      | .ok group =>
        if group.inherits then manifest.ascend (chain ++ [name]) outer else .ok chain

/-- The groups whose static context reaches a step, the nearest first. A group
that does not inherit is reached by no other. -/
def Manifest.inheritanceChain (manifest : Manifest) (current : StepId) (stack : CallStack) :
    Except RunError (List String) := do
  let group ← manifest.group current.group
  if group.inherits then manifest.ascend [current.group] stack.reverse else .ok [current.group]

/-! ## Layers -/

/-- What a step and its executor are told. -/
def contractLayer (step : Step) (id : StepId) (profile : Option Profile) : Payload :=
  let instructions := step.instructions.toList.map fun text =>
    ⟨s!"instructions:{id.text}", Kind.instructions, text⟩
  let persona := (profile.bind Profile.persona).toList.map fun text =>
    ⟨s!"persona:{step.executor}", Kind.persona, text⟩
  let settings := (profile.map (·.settings.entries)).getD []
  let rendered := "\n".intercalate (settings.map fun entry => s!"{entry.1}: {entry.2}")
  let configuration : Payload :=
    if settings.isEmpty then []
    else [⟨s!"executor_config:{step.executor}", Kind.settings, rendered⟩]
  instructions ++ persona ++ configuration

/-- The static context of one group. -/
def Group.staticLayer (group : Group) (name : String) : Payload :=
  group.staticContext.entries.map fun entry =>
    ⟨s!"static:{name}:{entry.1}", Kind.staticContext, entry.2⟩

/-- The static context of the groups of a chain. -/
def Manifest.staticLayer (manifest : Manifest) : List String → Except RunError Payload
  | [] => .ok []
  | name :: rest => do
    let group ← manifest.group name
    return group.staticLayer name ++ (← manifest.staticLayer rest)

/-- The artifacts; one that does not exist yet is empty. -/
def artifactLayer (artifacts : List Artifact) : Payload :=
  artifacts.map fun artifact =>
    ⟨s!"artifact:{artifact.path}", Kind.artifact, artifact.content.getD ""⟩

/-- The id of the entry that tells a fact about the run. -/
def metadataId (key : String) : String := "meta:" ++ key

/-- The facts about the run. -/
def metadataLayer (facts : RunFacts) (id : StepId) (depth : Nat) : Payload :=
  [("run_id", facts.runId), ("sandbox_path", facts.sandbox), ("step_id", id.text),
    ("iteration", Text.Decimal.text facts.iteration),
    ("call_depth", Text.Decimal.text depth)].map
      fun fact => ⟨metadataId fact.1, Kind.metadata, fact.2⟩

/-- What a step sees. -/
structure Situation where
  id : StepId
  payload : Payload
  stack : CallStack
  profile : Option Profile
  artifacts : List Artifact
  facts : RunFacts

/-- The context of a step. -/
def Manifest.context (manifest : Manifest) (situation : Situation) : Except RunError Payload := do
  let step ← manifest.step situation.id
  let chain ← manifest.inheritanceChain situation.id situation.stack
  let inherited ← manifest.staticLayer chain
  return step.plan.apply situation.payload ++
    contractLayer step situation.id situation.profile ++
    inherited ++
    artifactLayer situation.artifacts ++
    metadataLayer situation.facts situation.id situation.stack.length

end StepGraph
