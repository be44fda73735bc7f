import Mathlib.Control.Monad.Basic
import StepGraph.CallStack

/-! Looking things up in a manifest. Each lookup succeeds exactly when what it
looks for is declared, and names what is missing otherwise. The rest of the
theory speaks of declared groups and steps and does not open the lookups again. -/
namespace StepGraph

variable {ε ε' α β : Type} {key : String}

theorem bind_eq_ok {first : Except ε α} {next : α → Except ε β} {result : β} :
    (first >>= next) = .ok result ↔ ∃ value, first = .ok value ∧ next value = .ok result := by
  cases first with
  | error error => simp [bind, Except.bind]
  | ok value => simp [bind, Except.bind]

theorem bind_eq_error {first : Except ε α} {next : α → Except ε β} {error : ε} :
    (first >>= next) = .error error ↔
      first = .error error ∨ ∃ value, first = .ok value ∧ next value = .error error := by
  cases first with
  | error error => simp [bind, Except.bind]
  | ok value => simp [bind, Except.bind]

theorem mapError_eq_ok {result : Except ε α} {f : ε → ε'} {value : α} :
    result.mapError f = .ok value ↔ result = .ok value := by
  cases result <;> simp [Except.mapError]

theorem mapError_eq_error {result : Except ε α} {f : ε → ε'} {error : ε'} :
    result.mapError f = .error error ↔ ∃ cause, result = .error cause ∧ f cause = error := by
  cases result <;> simp [Except.mapError]

theorem map_eq_ok {result : Except ε α} {f : α → β} {value : β} :
    result.map f = .ok value ↔ ∃ found, result = .ok found ∧ f found = value := by
  cases result <;> simp [Except.map]

theorem map_eq_error {result : Except ε α} {f : α → β} {error : ε} :
    result.map f = .error error ↔ result = .error error := by
  cases result <;> simp [Except.map]

instance decidableSucceeds (result : Except ε α) : Decidable (∃ value, result = .ok value) :=
  match result with
  | .ok value => isTrue ⟨value, rfl⟩
  | .error _ => isFalse nofun

instance decidableSucceedsWith (result : Except ε α) (P : α → Prop) [DecidablePred P] :
    Decidable (∃ value, result = .ok value ∧ P value) :=
  match result with
  | .ok value => decidable_of_iff (P value) (by simp)
  | .error _ => isFalse nofun

/-- In a list of pairs without repeated names, a name leads to the pair that has it. -/
theorem find_entry_iff {entries : List (String × α)} {value : α}
    (nodup : (entries.map Prod.fst).Nodup) :
    (entries.find? (·.1 = key)).map Prod.snd = some value ↔ (key, value) ∈ entries := by
  induction entries with
  | nil => simp
  | cons entry rest ih =>
    rw [List.map_cons, List.nodup_cons] at nodup
    by_cases same : entry.1 = key
    · have absent : (key, value) ∉ rest := fun member =>
        nodup.1 (same ▸ List.mem_map.mpr ⟨(key, value), member, rfl⟩)
      simp only [List.find?_cons_of_pos (l := rest) (p := (·.1 = key)) (by simpa using same),
        Option.map_some, Option.some.injEq, List.mem_cons, absent, or_false]
      constructor
      · intro found
        rw [← same, ← found]
      · intro found
        rw [← found]
    · rw [List.find?_cons_of_neg (by simpa using same), ih nodup.2, List.mem_cons]
      constructor
      · exact Or.inr
      · rintro (found | later)
        · exact absurd (congrArg Prod.fst found).symm same
        · exact later

private theorem OrderedMap.get?_eq_some {map : OrderedMap α} {value : α} :
    map.get? key = some value ↔ (key, value) ∈ map.entries :=
  find_entry_iff map.nodup_keys

theorem SortedMap.get?_eq_some {map : SortedMap α} {value : α} :
    map.get? key = some value ↔ (key, value) ∈ map.entries :=
  find_entry_iff (map.sorted_keys.imp fun before => String.ne_of_lt before)

theorem OrderedMap.mem_keys {map : OrderedMap α} :
    key ∈ map.keys ↔ ∃ value, map.get? key = some value := by
  simp [OrderedMap.keys, get?_eq_some]

theorem OrderedMap.contains_iff {map : OrderedMap α} :
    map.contains key = true ↔ ∃ value, map.get? key = some value := by
  rw [OrderedMap.contains, Option.isSome_iff_exists]

/-- The error says that a group or a step is not declared. -/
def RunError.Undeclared : RunError → Prop
  | .unknownGroup _ => True
  | .unknownStep _ => True
  | _ => False

theorem RunError.Undeclared.isStructural {error : RunError} (undeclared : error.Undeclared) :
    error.isStructural = true := by
  cases error with
  | unknownGroup => rfl
  | unknownStep => rfl
  | _ => exact undeclared.elim

namespace Manifest

variable {manifest : Manifest} {name : String} {id : StepId} {group : Group} {step : Step}
  {error : RunError} {names : List String}

/-- The manifest has a group of that name. -/
def HasGroup (manifest : Manifest) (name : String) : Prop :=
  ∃ group, manifest.groups.get? name = some group

/-- The manifest declares that step. -/
def Declares (manifest : Manifest) (id : StepId) : Prop :=
  ∃ step, manifest.step id = .ok step

theorem group_eq_ok : manifest.group name = .ok group ↔ manifest.groups.get? name = some group := by
  unfold Manifest.group
  cases manifest.groups.get? name <;> simp

theorem group_eq_error :
    manifest.group name = .error error ↔
      manifest.groups.get? name = none ∧ error = .unknownGroup name := by
  unfold Manifest.group
  cases manifest.groups.get? name <;> simp [eq_comm]

private theorem step_eq_ok :
    manifest.step id = .ok step ↔
      ∃ group, manifest.groups.get? id.group = some group ∧
        group.steps.get? id.step = some step := by
  unfold Manifest.step
  simp only [bind_eq_ok, group_eq_ok]
  refine exists_congr fun group => and_congr_right fun _ => ?_
  cases group.steps.get? id.step <;> simp

/-- What holds of all declared steps is a matter of the entries of the maps. -/
theorem forall_steps_iff {P : StepId → Step → Prop} :
    (∀ id step, manifest.step id = .ok step → P id step) ↔
      ∀ entry ∈ manifest.groups.entries, ∀ named ∈ entry.2.steps.entries,
        P ⟨entry.1, named.1⟩ named.2 := by
  constructor
  · intro all entry member named among
    have groupFound := SortedMap.get?_eq_some.mpr member
    have stepFound := OrderedMap.get?_eq_some.mpr among
    exact all _ _ (step_eq_ok.mpr ⟨entry.2, groupFound, stepFound⟩)
  · intro all id step found
    obtain ⟨group, groupFound, stepFound⟩ := step_eq_ok.mp found
    have member := SortedMap.get?_eq_some.mp groupFound
    have among := OrderedMap.get?_eq_some.mp stepFound
    exact all (id.group, group) member (id.step, step) among

theorem declares_iff :
    manifest.Declares id ↔
      ∃ group, manifest.groups.get? id.group = some group ∧ id.step ∈ group.steps.keys := by
  constructor
  · rintro ⟨step, found⟩
    obtain ⟨group, groupFound, stepFound⟩ := step_eq_ok.mp found
    exact ⟨group, groupFound, OrderedMap.mem_keys.mpr ⟨step, stepFound⟩⟩
  · rintro ⟨group, groupFound, member⟩
    obtain ⟨step, stepFound⟩ := OrderedMap.mem_keys.mp member
    exact ⟨step, step_eq_ok.mpr ⟨group, groupFound, stepFound⟩⟩

theorem Declares.hasGroup (declared : manifest.Declares id) : manifest.HasGroup id.group :=
  have ⟨group, found, _⟩ := declares_iff.mp declared
  ⟨group, found⟩

private theorem validId_eq_ok {under : String} :
    validId under name = .ok id ↔ StepId.ofParts under name = .ok id :=
  mapError_eq_ok

theorem validId_eq_error {under : String} (failed : validId under name = .error error) :
    ∃ invalid, error = .invalidStepId invalid := by
  obtain ⟨invalid, _, same⟩ := mapError_eq_error.mp failed
  exact ⟨invalid, same.symm⟩

/-- A group begins at the step it names, if that is declared and its names form
an id. -/
theorem entryOf_eq_ok :
    manifest.entryOf name = .ok id ↔
      ∃ group, manifest.groups.get? name = some group ∧
        StepId.ofParts name group.entryStep = .ok id ∧ id.step ∈ group.steps.keys := by
  unfold Manifest.entryOf
  simp only [bind_eq_ok, group_eq_ok, validId_eq_ok]
  refine exists_congr fun group => and_congr_right fun _ => ?_
  constructor
  · rintro ⟨found, valid, checked⟩
    split at checked
    · rename_i declared
      cases checked
      exact ⟨valid, OrderedMap.mem_keys.mpr (OrderedMap.contains_iff.mp declared)⟩
    · cases checked
  · rintro ⟨valid, member⟩
    have declared := OrderedMap.contains_iff.mpr (OrderedMap.mem_keys.mp member)
    exact ⟨id, valid, by simp [declared]⟩

theorem following?_eq_none : following? name names = none ↔ name ∉ names := by
  induction names with
  | nil => simp [following?]
  | cons head rest ih =>
    by_cases same : head = name
    · simp [following?, same]
    · simp [following?, same, ih, Ne.symm same]

theorem mem_of_following? {next : String} (found : following? name names = some (some next)) :
    next ∈ names := by
  induction names with
  | nil => simp [following?] at found
  | cons head rest ih =>
    unfold following? at found
    split at found
    · injection found with behind
      exact List.mem_cons_of_mem _ (List.mem_of_mem_head? behind)
    · exact List.mem_cons_of_mem _ (ih found)

theorem stepAfter_eq_ok {next : Option StepId} :
    manifest.stepAfter id = .ok next ↔
      ∃ group, manifest.groups.get? id.group = some group ∧
        ((following? id.step group.steps.keys = some none ∧ next = none) ∨
          ∃ name behind, following? id.step group.steps.keys = some (some name) ∧
            StepId.ofParts id.group name = .ok behind ∧ next = some behind) := by
  unfold Manifest.stepAfter
  simp only [bind_eq_ok, group_eq_ok]
  refine exists_congr fun group => and_congr_right fun _ => ?_
  cases following? id.step group.steps.keys with
  | none => simp
  | some following =>
    cases following with
    | none => simp [eq_comm]
    | some following =>
      simp only [map_eq_ok, validId_eq_ok]
      simp [eq_comm]

end Manifest

/-- A step of the executor `tool` that says no more than what follows its outcomes. -/
def Step.routing (transitions : List Transition) : Step := ⟨"tool", none, [], [], transitions⟩

/-- The manifest of groups with these steps, all of which begin at their step `A`. -/
def Manifest.small (groups : List (String × List (String × Step))) : Manifest :=
  ⟨SortedMap.ofList (groups.map fun group =>
    (group.1, ⟨"A", true, ∅, OrderedMap.ofList group.2⟩))⟩

end StepGraph
