import StepGraph.StepId

/-! Actions: what a transition does. An action is written `RETURN`, or as a verb,
a colon and a target. Reading splits at the first colon, so a step id may hold
colons of its own; a group that is called may not. -/
namespace StepGraph

/-- Where control goes. -/
inductive Action
  /-- Goes on at another step. -/
  | jump (target : StepId)
  /-- Enters a group, to come back behind the step that calls it. -/
  | call (group : String)
  /-- Goes back behind the last call, or ends the run. -/
  | goBack
  deriving DecidableEq

namespace Action

/-- Why a text is no action. -/
inductive Defect
  | noVerb
  | noTarget (verb : String)
  | invalidTarget (invalid : StepId.Invalid)
  | colonInGroup
  | targetOfReturn
  | unknownVerb (verb : String)
  deriving DecidableEq

/-- A defect in words. -/
def Defect.message : Defect → String
  | .noVerb => "expected JUMP:<id>, CALL:<group> or RETURN"
  | .noTarget verb => s!"{verb} requires a target"
  | .invalidTarget invalid => invalid.message
  | .colonInGroup => "CALL target must be a group name"
  | .targetOfReturn => "RETURN takes no target"
  | .unknownVerb verb => s!"unknown verb '{verb}'"

/-- What stands before and after the first colon. -/
def verbAndTarget? : List Char → Option (List Char × List Char)
  | [] => none
  | ':' :: target => some ([], target)
  | c :: rest => (verbAndTarget? rest).map fun parts => (c :: parts.1, parts.2)

/-- Reads an action from its text. -/
def parse (raw : String) : Except Defect Action :=
  if raw = "RETURN" then .ok .goBack
  else
    match verbAndTarget? raw.toList with
    | none => .error .noVerb
    | some (verb, target) =>
      let verb := String.ofList verb
      if target.isEmpty then .error (.noTarget verb)
      else if verb = "JUMP" then
        match StepId.parse (String.ofList target) with
        | .ok id => .ok (.jump id)
        | .error invalid => .error (.invalidTarget invalid)
      else if verb = "CALL" then
        if target.contains ':' then .error .colonInGroup else .ok (.call (String.ofList target))
      else if verb = "RETURN" then .error .targetOfReturn
      else .error (.unknownVerb verb)

/-- An action as text. -/
def text : Action → String
  | .jump target => "JUMP:" ++ target.text
  | .call group => "CALL:" ++ group
  | .goBack => "RETURN"

end Action
end StepGraph
