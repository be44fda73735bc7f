import StepGraph.Proofs.CallStack

/-! The outline of a manifest: what it says about where a run goes. Who runs a step, what a
step is told and what it sees of the history is left out. Names, entry steps, the steps
behind steps and the places to which actions lead are the same in manifests with one
outline. -/
namespace StepGraph

/-- In a list of pairs whose values are replaced by what is made of them, a name leads to what
is made of its value. -/
theorem map_find_entry {α β : Type} {entries : List (String × α)} {key : String} (f : α → β) :
    ((entries.find? (·.1 = key)).map Prod.snd).map f =
      ((entries.map fun entry => (entry.1, f entry.2)).find? (·.1 = key)).map Prod.snd := by
  rw [List.find?_map]
  simp only [Option.map_map, Function.comp_def]

/-- The entry step of a group, and its steps in order with their transitions. -/
def Group.outline (group : Group) : String × List (String × List Transition) :=
  (group.entryStep, group.steps.entries.map fun entry => (entry.1, entry.2.transitions))

private theorem Group.keys_of_outline {group other : Group} (same : group.outline = other.outline) :
    group.steps.keys = other.steps.keys := by
  have names := congrArg (fun outline => outline.2.map Prod.fst) same
  simpa [Group.outline, OrderedMap.keys, Function.comp_def] using names

namespace Manifest

/-- The groups by name, each with its entry step and its steps in order with their
transitions. -/
def outline (manifest : Manifest) : List (String × String × List (String × List Transition)) :=
  manifest.groups.entries.map fun entry => (entry.1, entry.2.outline)

variable {first second : Manifest}

/-- A group is missing in both, or found in both with one outline. -/
theorem group_alike (alike : first.outline = second.outline) (name : String) :
    (∃ error, first.group name = .error error ∧ second.group name = .error error) ∨
      ∃ group other, first.group name = .ok group ∧ second.group name = .ok other ∧
        group.outline = other.outline := by
  have same : (first.groups.get? name).map Group.outline =
      (second.groups.get? name).map Group.outline := by
    unfold SortedMap.get?
    rw [map_find_entry, map_find_entry]
    exact congrArg (fun entries => (entries.find? (·.1 = name)).map Prod.snd) alike
  unfold Manifest.group
  cases found : first.groups.get? name with
  | none =>
    cases again : second.groups.get? name with
    | none => exact Or.inl ⟨_, rfl, rfl⟩
    | some other => simp [found, again] at same
  | some group =>
    cases again : second.groups.get? name with
    | none => simp [found, again] at same
    | some other =>
      refine Or.inr ⟨group, other, rfl, rfl, ?_⟩
      simpa [found, again] using same

/-- A step is missing in both, or found in both with the same transitions. -/
theorem step_alike (alike : first.outline = second.outline) (id : StepId) :
    (∃ error, first.step id = .error error ∧ second.step id = .error error) ∨
      ∃ step other, first.step id = .ok step ∧ second.step id = .ok other ∧
        step.transitions = other.transitions := by
  unfold Manifest.step
  rcases group_alike alike id.group with
    ⟨error, missing, again⟩ | ⟨group, other, found, again, outlines⟩
  · rw [missing, again]
    exact Or.inl ⟨error, rfl, rfl⟩
  rw [found, again]
  have same : (group.steps.get? id.step).map Step.transitions =
      (other.steps.get? id.step).map Step.transitions := by
    unfold OrderedMap.get?
    rw [map_find_entry, map_find_entry]
    exact congrArg (fun outline => (outline.2.find? (·.1 = id.step)).map Prod.snd) outlines
  simp only [bind, Except.bind]
  cases here : group.steps.get? id.step with
  | none =>
    cases there : other.steps.get? id.step with
    | none => exact Or.inl ⟨_, rfl, rfl⟩
    | some step => simp [here, there] at same
  | some step =>
    cases there : other.steps.get? id.step with
    | none => simp [here, there] at same
    | some another =>
      refine Or.inr ⟨step, another, rfl, rfl, ?_⟩
      simpa [here, there] using same

theorem validateNames_congr (alike : first.outline = second.outline) :
    first.validateNames = second.validateNames := by
  have ids (manifest : Manifest) : manifest.stepIds =
      manifest.outline.flatMap fun entry => entry.2.2.map fun named => ⟨entry.1, named.1⟩ := by
    simp [stepIds, outline, Group.outline, OrderedMap.keys, List.flatMap_map, Function.comp_def]
  unfold validateNames invalidName?
  rw [ids first, ids second, alike]

theorem entryOf_congr (alike : first.outline = second.outline) (name : String) :
    first.entryOf name = second.entryOf name := by
  unfold Manifest.entryOf
  rcases group_alike alike name with ⟨error, missing, again⟩ | ⟨group, other, found, again, same⟩
  · rw [missing, again]
  rw [found, again]
  have entry : group.entryStep = other.entryStep := congrArg Prod.fst same
  have declared (step : String) : group.steps.contains step = other.steps.contains step := by
    rw [Bool.eq_iff_iff, OrderedMap.contains_iff, OrderedMap.contains_iff,
      ← OrderedMap.mem_keys, ← OrderedMap.mem_keys, Group.keys_of_outline same]
  simp only [bind, Except.bind, entry, declared]

private theorem stepAfter_congr (alike : first.outline = second.outline) (id : StepId) :
    first.stepAfter id = second.stepAfter id := by
  unfold Manifest.stepAfter
  rcases group_alike alike id.group with
    ⟨error, missing, again⟩ | ⟨group, other, found, again, same⟩
  · rw [missing, again]
  · rw [found, again]
    simp only [bind, Except.bind, Group.keys_of_outline same]

/-- Actions read alike and lead to the same places. -/
theorem interpret_congr (alike : first.outline = second.outline) (current : StepId)
    (stack : CallStack) (raw : String) :
    Action.interpret first current stack raw = Action.interpret second current stack raw := by
  have reduces (action : Action) :
      action.reduce first current stack = action.reduce second current stack := by
    cases action with
    | jump target => rfl
    | call group =>
      simp only [Action.reduce, returnFrame, entryOf_congr alike, stepAfter_congr alike]
    | goBack => rfl
  simp only [Action.interpret, reduces]

end Manifest
end StepGraph
