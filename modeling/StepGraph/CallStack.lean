import StepGraph.Manifest

/-! The call stack, and what actions do to it. A call pushes a frame that says
where it comes back to: behind the calling step, in the order of declaration.
Going back skips the frames whose caller was the last step of its group, and
ends the run when none is left. -/
namespace StepGraph

/-- A call that has not come back yet. -/
structure Frame where
  /-- The step that called. -/
  caller : StepId
  /-- Where the call comes back to, unless the caller was the last of its group. -/
  resume : Option StepId
  deriving DecidableEq

/-- Frames of calls, the innermost at the end. -/
abbrev CallStack := List Frame

namespace Frame

/-- Reads a frame. -/
def ofData? (data : Data) : Option Frame := do
  match ← data.fields? ["caller", "resume"] with
  | [caller, resume] =>
    some ⟨← caller.required StepId.ofData?, ← resume.nullable StepId.ofData?⟩
  | _ => none

/-- A frame as data. -/
def toData (frame : Frame) : Data :=
  .record [("caller", frame.caller.toData),
    ("resume", (frame.resume.map StepId.toData).getD .null)]

end Frame

/-- What an action leads to: the step that is next, unless the run ends, and the
calls that are open then. -/
structure Continuation where
  next : Option StepId
  stack : CallStack
  deriving DecidableEq

/-- The frame of a call from a step. -/
def Manifest.returnFrame (manifest : Manifest) (caller : StepId) : Except RunError Frame := do
  return ⟨caller, ← manifest.stepAfter caller⟩

/-- Goes back through frames, the innermost first, to the first that says where
to resume. -/
def unwind : List Frame → Continuation
  | [] => ⟨none, []⟩
  | ⟨_, some resume⟩ :: outer => ⟨some resume, outer.reverse⟩
  | ⟨_, none⟩ :: outer => unwind outer

namespace Action

/-- What an action leads to at a step. -/
def reduce (manifest : Manifest) (current : StepId) (stack : CallStack) :
    Action → Except RunError Continuation
  | .jump target => .ok ⟨some target, stack⟩
  | .call group => do
    let entry ← manifest.entryOf group
    let frame ← manifest.returnFrame current
    .ok ⟨some entry, stack ++ [frame]⟩
  | .goBack => .ok (unwind stack.reverse)

/-- Reads an action and says what it leads to at a step. -/
def interpret (manifest : Manifest) (current : StepId) (stack : CallStack) (raw : String) :
    Except RunError (Action × Continuation) := do
  let action ← (parse raw).mapError (RunError.invalidAction current raw)
  return (action, ← action.reduce manifest current stack)

end Action
end StepGraph
