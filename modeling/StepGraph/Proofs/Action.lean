import StepGraph.Action
import StepGraph.Proofs.StepId

/-! The texts of actions. Three forms are written: the one word for going back, a jump to a text
that is an id, and a call of a name. The verb ends at the first colon, so whatever stands behind
that belongs to the target: colons are part of the step id of a jump, and there is no call with
one. These are all texts that read, and an action that was read has the text it was read from. -/
namespace StepGraph.Action

/-- A text is divided at its first colon. -/
theorem verbAndTarget?_eq_some_iff {chars verb target : List Char} :
    verbAndTarget? chars = some (verb, target) ↔
      chars = verb ++ ':' :: target ∧ ':' ∉ verb := by
  induction chars generalizing verb with
  | nil => simp [verbAndTarget?]
  | cons c rest ih =>
    by_cases colon : c = ':'
    · subst colon
      constructor
      · rintro ⟨⟩
        exact ⟨rfl, List.not_mem_nil⟩
      · rintro ⟨whole, free⟩
        cases verb with
        | nil =>
          cases whole
          rfl
        | cons first verb =>
          cases whole
          exact absurd List.mem_cons_self free
    · rw [verbAndTarget?.eq_3 c rest colon, Option.map_eq_some_iff]
      constructor
      · rintro ⟨parts, divided, same⟩
        cases same
        obtain ⟨whole, free⟩ := ih.mp divided
        exact ⟨congrArg (c :: ·) whole, List.not_mem_cons_of_ne_of_not_mem (Ne.symm colon) free⟩
      · rintro ⟨whole, free⟩
        cases verb with
        | nil =>
          cases whole
          exact absurd rfl colon
        | cons first verb =>
          cases whole
          exact ⟨(verb, target), ih.mpr ⟨rfl, List.not_mem_of_not_mem_cons free⟩, rfl⟩

/-- The texts that are written of actions, each with the action it stands for. -/
inductive Written : String → Action → Prop
  | goBack : Written "RETURN" .goBack
  /-- All that stands behind the verb is the id. -/
  | jump {target : String} {id : StepId} (read : StepId.parse target = .ok id) :
      Written ("JUMP:" ++ target) (.jump id)
  | call {group : String} (named : group ≠ "") (whole : ':' ∉ group.toList) :
      Written ("CALL:" ++ group) (.call group)

variable {raw verb target group : String} {action : Action} {id : StepId}

private theorem Written.text_eq (written : Written raw action) : action.text = raw := by
  cases written with
  | goBack => rfl
  | jump read => rw [text, StepId.text_of_parse read]
  | call => rfl

/-- What a verb makes of a target. -/
theorem parse_verb (plain : ':' ∉ verb.toList) (named : target ≠ "") :
    parse (verb ++ ":" ++ target) =
      if verb = "JUMP" then
        match StepId.parse target with
        | .ok id => .ok (.jump id)
        | .error invalid => .error (.invalidTarget invalid)
      else if verb = "CALL" then
        if target.toList.contains ':' then .error .colonInGroup else .ok (.call target)
      else if verb = "RETURN" then .error .targetOfReturn
      else .error (.unknownVerb verb) := by
  have divided : verbAndTarget? (verb ++ ":" ++ target).toList =
      some (verb.toList, target.toList) := verbAndTarget?_eq_some_iff.mpr ⟨by simp, plain⟩
  have other : verb ++ ":" ++ target ≠ "RETURN" := by
    intro same
    have colon : ':' ∈ "RETURN".toList := by simp [← same]
    exact absurd colon (by decide)
  have filled : target.toList.isEmpty = false := by simpa using named
  unfold parse
  rw [if_neg other, divided]
  simp only [filled, String.ofList_toList]
  rfl

theorem parse_jump (read : StepId.parse target = .ok id) :
    parse ("JUMP:" ++ target) = .ok (.jump id) := by
  have named : target ≠ "" := by
    rintro rfl
    cases read
  have parsed : parse ("JUMP" ++ ":" ++ target) = _ := parse_verb (by decide) named
  rw [if_pos rfl, read] at parsed
  exact parsed

theorem parse_call (named : group ≠ "") (whole : ':' ∉ group.toList) :
    parse ("CALL:" ++ group) = .ok (.call group) := by
  have parsed : parse ("CALL" ++ ":" ++ group) = _ := parse_verb (by decide) named
  rw [if_neg (by decide), if_pos rfl, if_neg (by simpa using whole)] at parsed
  exact parsed

/-- There is no call of a name with a colon. -/
theorem parse_call_of_colon (colon : ':' ∈ group.toList) :
    parse ("CALL:" ++ group) = .error .colonInGroup := by
  have named : group ≠ "" := by
    rintro rfl
    exact List.not_mem_nil colon
  have parsed : parse ("CALL" ++ ":" ++ group) = _ := parse_verb (by decide) named
  rw [if_neg (by decide), if_pos rfl, if_pos (by simpa using colon)] at parsed
  exact parsed

theorem written_of_parse (read : parse raw = .ok action) : Written raw action := by
  unfold parse at read
  split at read
  · rename_i back
    cases read
    exact back ▸ .goBack
  split at read
  · cases read
  rename_i verb target divided
  have whole : raw = String.ofList verb ++ ":" ++ String.ofList target := by
    rw [← String.toList_inj]
    simp [(verbAndTarget?_eq_some_iff.mp divided).1]
  simp only at read
  split at read
  · cases read
  rename_i filled
  split at read
  · rename_i jumps
    rw [jumps] at whole
    subst whole
    split at read
    · rename_i id parsed
      cases read
      exact .jump parsed
    · cases read
  split at read
  · rename_i calls
    rw [calls] at whole
    subst whole
    split at read
    · cases read
    · rename_i plain
      cases read
      exact .call (by simpa using filled) (by simpa using plain)
  split at read <;> cases read

/-- The texts that read are exactly those that are written of an action. -/
theorem parse_eq_ok_iff : parse raw = .ok action ↔ Written raw action := by
  constructor
  · exact written_of_parse
  · intro written
    cases written with
    | goBack => rfl
    | jump read => exact parse_jump read
    | call named whole => exact parse_call named whole

/-- A text reads exactly if it is the word for going back, a jump to a text that is an id, or a
call of a name without a colon. It is then the text of the action that it reads as, and that text
reads as the action again. -/
theorem actions_are_read_as_written :
    (∀ raw, (∃ action, parse raw = .ok action) ↔
      raw = "RETURN" ∨
        (∃ target id, raw = "JUMP:" ++ target ∧ StepId.parse target = .ok id) ∨
        ∃ group, raw = "CALL:" ++ group ∧ group ≠ "" ∧ ':' ∉ group.toList) ∧
      (∀ raw action, parse raw = .ok action ↔ Written raw action) ∧
      (∀ raw action, parse raw = .ok action → action.text = raw) ∧
      ∀ raw action, parse raw = .ok action → parse action.text = .ok action := by
  refine ⟨fun raw => ?_, fun _ _ => parse_eq_ok_iff,
    fun _ _ read => (written_of_parse read).text_eq, fun raw action read => ?_⟩
  · simp only [parse_eq_ok_iff]
    constructor
    · rintro ⟨action, written⟩
      cases written with
      | goBack => exact Or.inl rfl
      | jump read => exact Or.inr (Or.inl ⟨_, _, rfl, read⟩)
      | call named whole => exact Or.inr (Or.inr ⟨_, rfl, named, whole⟩)
    · rintro (rfl | ⟨target, id, rfl, read⟩ | ⟨group, rfl, named, whole⟩)
      · exact ⟨_, .goBack⟩
      · exact ⟨_, .jump read⟩
      · exact ⟨_, .call named whole⟩
  · rw [(written_of_parse read).text_eq]
    exact read

/-- Of the colons of a text only the first is the verb's. The others belong to the step that is
the target, while a group has none. -/
theorem later_colons_belong_to_steps :
    parse "JUMP:a__b:c" = .ok (.jump ⟨"a", "b:c"⟩) ∧
      text (.jump ⟨"a", "b:c"⟩) = "JUMP:a__b:c" ∧
      parse (text (.jump ⟨"a", "b:c"⟩)) = .ok (.jump ⟨"a", "b:c"⟩) ∧
      ¬ Written "CALL:a__b:c" (.call "a__b:c") := by
  obtain ⟨_, written, texts, again⟩ := actions_are_read_as_written
  have read : parse "JUMP:a__b:c" = .ok (.jump ⟨"a", "b:c"⟩) := rfl
  refine ⟨read, texts _ _ read, again _ _ read, ?_⟩
  rw [← written]
  nofun

end StepGraph.Action
