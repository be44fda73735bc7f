import StepGraph.Proofs.Action
import StepGraph.Proofs.CallStack
import StepGraph.Proofs.Manifest.Names

/-! Where actions of a manifest can lead. Every declared step can be jumped to under its text, for
its names have been checked to read back from it. A group is called by its name, and the text of a
call ends the verb at the first colon and wants no other: so a group that can be entered can be
called unless it has a colon in its name, which the check of names does not forbid. No text calls
such a group; it is entered as the group of a run, or by a jump to one of its steps. -/
namespace StepGraph.Action

variable {manifest : Manifest} {current target entry : StepId} {stack : CallStack}
  {raw group : String}

/-- A text that does not read is no action at any step. -/
theorem interpret_of_defect {defect : Defect} (unread : parse raw = .error defect) :
    interpret manifest current stack raw = .error (.invalidAction current raw defect) := by
  simp only [interpret, unread, Except.mapError]
  rfl

/-- A group that can be entered, and has no colon in its name, is called by its name. -/
theorem interpret_call {behind : Option StepId} (entered : manifest.entryOf group = .ok entry)
    (whole : ':' ∉ group.toList) (after : manifest.stepAfter current = .ok behind) :
    interpret manifest current stack ("CALL:" ++ group) =
      .ok (.call group, ⟨some entry, stack ++ [⟨current, behind⟩]⟩) := by
  obtain ⟨_, _, made, _⟩ := Manifest.entryOf_eq_ok.mp entered
  obtain ⟨rfl, named⟩ := StepId.ofParts_eq_ok_iff.mp made
  have read := parse_call named.group whole
  exact interpret_eq_ok.mpr
    ⟨read, reduce_call_eq_ok.mpr ⟨_, behind, entered, after, rfl⟩⟩

/-- No text calls a group with a colon in its name. -/
theorem not_colon_of_interpret_call {place : Continuation}
    (called : interpret manifest current stack raw = .ok (.call group, place)) :
    ':' ∉ group.toList := by
  cases written_of_parse (interpret_eq_ok.mp called).1 with
  | call _ whole => exact whole

/-- A step is jumped to under its text. -/
theorem interpret_jump (named : target.WellNamed) :
    interpret manifest current stack ("JUMP:" ++ target.text) =
      .ok (.jump target, ⟨some target, stack⟩) :=
  interpret_eq_ok.mpr ⟨parse_jump named.parse_text, rfl⟩

end StepGraph.Action

namespace StepGraph.Manifest

open StepGraph.Action (interpret)

/-- From every declared step of a manifest whose names have been checked, a group that can be
entered is called by its name, unless that has a colon: then the call is no action, and no other
text calls the group. Every declared step is jumped to under its text. -/
theorem groups_without_colons_can_be_called {manifest : Manifest} {current : StepId}
    (names : manifest.validateNames = .ok ()) (declared : manifest.Declares current)
    (stack : CallStack) :
    (∀ group entry, manifest.entryOf group = .ok entry → ':' ∉ group.toList →
      ∃ behind, manifest.stepAfter current = .ok behind ∧
        interpret manifest current stack ("CALL:" ++ group) =
          .ok (.call group, ⟨some entry, stack ++ [⟨current, behind⟩]⟩)) ∧
      (∀ group, ':' ∈ group.toList →
        interpret manifest current stack ("CALL:" ++ group) =
          .error (.invalidAction current ("CALL:" ++ group) .colonInGroup) ∧
        ∀ raw place, interpret manifest current stack raw ≠ .ok (.call group, place)) ∧
      ∀ target, manifest.Declares target →
        interpret manifest current stack ("JUMP:" ++ target.text) =
          .ok (.jump target, ⟨some target, stack⟩) := by
  refine ⟨fun group entry entered whole => ?_, fun group colon => ⟨?_, ?_⟩,
    fun target known => ?_⟩
  · obtain ⟨behind, after⟩ := stepAfter_of_declares names declared
    exact ⟨behind, after, Action.interpret_call entered whole after⟩
  · exact Action.interpret_of_defect (Action.parse_call_of_colon colon)
  · exact fun raw place called => Action.not_colon_of_interpret_call called colon
  · exact Action.interpret_jump (wellNamed_of_declares names known)

/-- Two groups, one of which has a colon in its name, and a step with a colon. -/
def punctuated : Manifest :=
  .small [("Main", [("A", .routing []), ("B:C", .routing [])]), ("Sub", [("A", .routing [])]),
    ("a:b", [("A", .routing [])])]

/-- A call of the plain group comes back to the step with the colon, to which a jump leads too. -/
theorem punctuated_calls_plain_group :
    punctuated.validateNames = .ok () ∧ punctuated.Declares ⟨"Main", "A"⟩ ∧
      interpret punctuated ⟨"Main", "A"⟩ [] "CALL:Sub" =
        .ok (.call "Sub", ⟨some ⟨"Sub", "A"⟩, [⟨⟨"Main", "A"⟩, some ⟨"Main", "B:C"⟩⟩]⟩) ∧
      interpret punctuated ⟨"Main", "A"⟩ [] "JUMP:Main__B:C" =
        .ok (.jump ⟨"Main", "B:C"⟩, ⟨some ⟨"Main", "B:C"⟩, []⟩) := by
  have names : punctuated.validateNames = .ok () := by decide
  have declared : punctuated.Declares ⟨"Main", "A"⟩ := ⟨_, rfl⟩
  have entered : punctuated.entryOf "Sub" = .ok ⟨"Sub", "A"⟩ := by decide
  have known : punctuated.Declares ⟨"Main", "B:C"⟩ := ⟨_, rfl⟩
  obtain ⟨calls, _, jumps⟩ := groups_without_colons_can_be_called names declared []
  obtain ⟨behind, after, called⟩ := calls "Sub" _ entered (by decide)
  have next : punctuated.stepAfter ⟨"Main", "A"⟩ = .ok (some ⟨"Main", "B:C"⟩) := by decide
  cases next.symm.trans after
  exact ⟨names, declared, called, jumps _ known⟩

/-- The group with the colon can be entered, but not by calling it. -/
theorem punctuated_group_cannot_be_called :
    punctuated.validateNames = .ok () ∧ punctuated.Declares ⟨"Main", "A"⟩ ∧
      punctuated.entryOf "a:b" = .ok ⟨"a:b", "A"⟩ ∧
      interpret punctuated ⟨"Main", "A"⟩ [] "CALL:a:b" =
        .error (.invalidAction ⟨"Main", "A"⟩ "CALL:a:b" .colonInGroup) :=
  ⟨by decide, ⟨_, rfl⟩, by decide, by decide⟩

end StepGraph.Manifest
