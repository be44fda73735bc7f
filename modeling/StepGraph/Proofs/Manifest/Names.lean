import StepGraph.Manifest.Load
import StepGraph.Proofs.FileSystem.Replace
import StepGraph.Proofs.StepId

/-! Which names pass the check of a manifest. The check makes the id of every declared step, and
so it holds each half of an id to what is asked of that half alone: no step has a name that is
empty or has a separator, and no group that has a step has such a name, or one that ends with an
underscore. About the name of a group without steps the check says nothing. Loading makes the
same check and no other, so such a group may be in a manifest that has been loaded. -/
namespace StepGraph

namespace StepId

/-- A name that the group of an id may have. -/
def IsGroupName (name : String) : Prop :=
  name ≠ "" ∧ ¬ Separated name.toList ∧ name.toList.getLast? ≠ some '_'

/-- A name that the step of an id may have. -/
def IsStepName (name : String) : Prop := name ≠ "" ∧ ¬ Separated name.toList

instance : DecidablePred IsGroupName := fun name =>
  inferInstanceAs (Decidable (name ≠ "" ∧ ¬ Separated name.toList ∧
    name.toList.getLast? ≠ some '_'))

instance : DecidablePred IsStepName := fun name =>
  inferInstanceAs (Decidable (name ≠ "" ∧ ¬ Separated name.toList))

/-- Whether an id is well named is a matter of each name alone. -/
theorem wellNamed_iff_names {id : StepId} :
    id.WellNamed ↔ IsGroupName id.group ∧ IsStepName id.step :=
  ⟨fun named => ⟨⟨named.group, named.group_whole, named.group_end⟩, named.step, named.step_whole⟩,
    fun ⟨⟨group, groupWhole, groupEnd⟩, step, stepWhole⟩ =>
      ⟨group, step, groupWhole, stepWhole, groupEnd⟩⟩

end StepId

namespace Manifest

open StepId (IsGroupName IsStepName)

variable {manifest : Manifest} {name : String} {group : Group} {id : StepId}
  {files : FileSystem} {path : String}

theorem mem_stepIds : id ∈ manifest.stepIds ↔ manifest.Declares id := by
  rw [declares_iff]
  simp only [stepIds, List.mem_flatMap, List.mem_map, Prod.exists]
  constructor
  · rintro ⟨name, group, member, step, declared, rfl⟩
    exact ⟨group, SortedMap.get?_eq_some.mpr member, declared⟩
  · rintro ⟨group, found, declared⟩
    exact ⟨id.group, group, SortedMap.get?_eq_some.mp found, id.step, declared, rfl⟩

/-- Names pass the check exactly if they form an id at every declared step. -/
theorem validateNames_eq_ok_iff : manifest.validateNames = .ok () ↔
    ∀ id, manifest.Declares id → StepId.ofParts id.group id.step = .ok id := by
  have passes : manifest.validateNames = .ok () ↔ manifest.invalidName? = none := by
    unfold validateNames
    cases manifest.invalidName? <;> simp
  rw [passes, invalidName?, List.findSome?_eq_none_iff]
  refine forall_congr' fun id => ?_
  rw [mem_stepIds]
  refine imp_congr_right fun _ => ?_
  cases made : StepId.ofParts id.group id.step with
  | error invalid => simp
  | ok other => simp [(StepId.ofParts_eq_ok made).1]

/-- Names that pass the check form an id at every declared step. -/
theorem ofParts_of_validateNames (names : manifest.validateNames = .ok ())
    (declared : manifest.Declares id) : StepId.ofParts id.group id.step = .ok id :=
  validateNames_eq_ok_iff.mp names id declared

/-- The names of a group of the manifest, once checked, form ids. -/
theorem ofParts_of_mem_keys (names : manifest.validateNames = .ok ()) {under : String}
    (found : manifest.groups.get? under = some group) (member : name ∈ group.steps.keys) :
    StepId.ofParts under name = .ok ⟨under, name⟩ :=
  have declared : manifest.Declares ⟨under, name⟩ := declares_iff.mpr ⟨group, found, member⟩
  ofParts_of_validateNames names declared

/-- The names of a declared step, once checked, can be told from its text. -/
theorem wellNamed_of_declares (names : manifest.validateNames = .ok ())
    (declared : manifest.Declares id) : id.WellNamed :=
  (StepId.ofParts_eq_ok_iff.mp (ofParts_of_validateNames names declared)).2

/-- The first step of a group is declared. -/
theorem declares_of_entryOf (entered : manifest.entryOf name = .ok id) : manifest.Declares id := by
  obtain ⟨group, found, made, member⟩ := entryOf_eq_ok.mp entered
  obtain ⟨rfl, _⟩ := StepId.ofParts_eq_ok made
  exact declares_iff.mpr ⟨group, found, member⟩

/-- The step behind another one is declared. -/
theorem declares_of_stepAfter {behind : StepId}
    (following : manifest.stepAfter id = .ok (some behind)) : manifest.Declares behind := by
  obtain ⟨group, found, ⟨_, impossible⟩ | ⟨name, made, next, formed, same⟩⟩ :=
    stepAfter_eq_ok.mp following
  · cases impossible
  · cases same
    obtain ⟨rfl, _⟩ := StepId.ofParts_eq_ok formed
    exact declares_iff.mpr ⟨group, found, mem_of_following? next⟩

/-- What stands behind a declared step can be told. -/
theorem stepAfter_of_declares (names : manifest.validateNames = .ok ())
    (declared : manifest.Declares id) : ∃ next, manifest.stepAfter id = .ok next := by
  obtain ⟨group, found, member⟩ := declares_iff.mp declared
  cases following : following? id.step group.steps.keys with
  | none => exact absurd member (following?_eq_none.mp following)
  | some next =>
    cases next with
    | none => exact ⟨none, stepAfter_eq_ok.mpr ⟨group, found, Or.inl ⟨following, rfl⟩⟩⟩
    | some name =>
      have formed := ofParts_of_mem_keys names found (mem_of_following? following)
      exact ⟨some ⟨id.group, name⟩,
        stepAfter_eq_ok.mpr ⟨group, found, Or.inr ⟨name, _, following, formed, rfl⟩⟩⟩

private theorem checked_eq_ok_iff {found : Manifest} :
    found.checked = .ok manifest ↔ found = manifest ∧ found.validateNames = .ok () := by
  unfold checked validateNames
  cases found.invalidName? <;> simp

/-- A manifest is loaded if it is what the text of the file says and its names pass the check. -/
theorem load_eq_ok_iff : load files path = .ok manifest ↔
    (∃ text format, files.readText path = .ok text ∧ Format.ofPath? path = some format ∧
      ofText format text = .ok manifest) ∧ manifest.validateNames = .ok () := by
  simp only [load, attemptingIo, attempting, bind_eq_ok, mapError_eq_ok]
  constructor
  · rintro ⟨text, read, loaded⟩
    split at loaded
    · cases loaded
    · rename_i format known
      obtain ⟨found, described, checks⟩ := bind_eq_ok.mp loaded
      obtain ⟨rfl, names⟩ := checked_eq_ok_iff.mp (mapError_eq_ok.mp checks)
      exact ⟨⟨text, format, read, known, mapError_eq_ok.mp described⟩, names⟩
  · rintro ⟨⟨text, format, read, known, described⟩, names⟩
    have checks := checked_eq_ok_iff.mpr ⟨rfl, names⟩
    refine ⟨text, read, ?_⟩
    simp only [known, bind_eq_ok, mapError_eq_ok]
    exact ⟨manifest, described, checks⟩

/-- The names of a manifest have been checked when it has been loaded. -/
theorem validateNames_of_load (loaded : load files path = .ok manifest) :
    manifest.validateNames = .ok () :=
  (load_eq_ok_iff.mp loaded).2

/-- Every group, and every step of a group, has a name that an id may have. -/
structure SoundNames (manifest : Manifest) : Prop where
  groups : ∀ name group, manifest.groups.get? name = some group → IsGroupName name
  steps : ∀ name group, manifest.groups.get? name = some group →
    ∀ step ∈ group.steps.keys, IsStepName step

/-- What holds of all groups is a matter of the entries of the map. -/
theorem forall_groups_iff {P : String → Group → Prop} :
    (∀ name group, manifest.groups.get? name = some group → P name group) ↔
      ∀ entry ∈ manifest.groups.entries, P entry.1 entry.2 := by
  simp only [SortedMap.get?_eq_some, Prod.forall]

/-- The check holds each name to what is asked of it alone, if its group has a step. -/
theorem validateNames_eq_ok_iff_names : manifest.validateNames = .ok () ↔
    ∀ name group, manifest.groups.get? name = some group →
      (group.steps.keys ≠ [] → IsGroupName name) ∧ ∀ step ∈ group.steps.keys, IsStepName step := by
  constructor
  · intro names name group found
    have named : ∀ step ∈ group.steps.keys, IsGroupName name ∧ IsStepName step := by
      intro step member
      have declared : manifest.Declares ⟨name, step⟩ := declares_iff.mpr ⟨group, found, member⟩
      exact StepId.wellNamed_iff_names.mp (wellNamed_of_declares names declared)
    refine ⟨fun staffed => ?_, fun step member => (named step member).2⟩
    obtain ⟨step, member⟩ := List.exists_mem_of_ne_nil _ staffed
    exact (named step member).1
  · intro each
    refine validateNames_eq_ok_iff.mpr fun id declared => ?_
    obtain ⟨group, found, member⟩ := declares_iff.mp declared
    obtain ⟨groupNamed, stepsNamed⟩ := each id.group group found
    have named : id.WellNamed := StepId.wellNamed_iff_names.mpr
      ⟨groupNamed (List.ne_nil_of_mem member), stepsNamed id.step member⟩
    exact StepId.ofParts_eq_ok_iff.mpr ⟨rfl, named⟩

/-- Names pass the check if and only if the steps of all groups are soundly named, and so are
the groups that have a step. All names are sound if they pass and the groups without steps are
soundly named too, so these are all that the check passes over. A manifest is loaded from a file
that describes it exactly if its names pass. -/
theorem names_are_checked_at_steps (manifest : Manifest) :
    (manifest.validateNames = .ok () ↔
      ∀ name group, manifest.groups.get? name = some group →
        (group.steps.keys ≠ [] → IsGroupName name) ∧
          ∀ step ∈ group.steps.keys, IsStepName step) ∧
      (manifest.SoundNames ↔ manifest.validateNames = .ok () ∧
        ∀ name group, manifest.groups.get? name = some group → group.steps.keys = [] →
          IsGroupName name) ∧
      ∀ files path, load files path = .ok manifest ↔
        (∃ text format, files.readText path = .ok text ∧ Format.ofPath? path = some format ∧
          ofText format text = .ok manifest) ∧ manifest.validateNames = .ok () := by
  refine ⟨validateNames_eq_ok_iff_names, ?_, fun _ _ => load_eq_ok_iff⟩
  rw [validateNames_eq_ok_iff_names]
  constructor
  · intro sound
    refine ⟨fun name group found => ⟨fun _ => sound.groups name group found, ?_⟩, ?_⟩
    · exact sound.steps name group found
    · exact fun name group found _ => sound.groups name group found
  · rintro ⟨staffed, unstaffed⟩
    refine ⟨fun name group found => ?_, fun name group found => (staffed name group found).2⟩
    by_cases empty : group.steps.keys = []
    · exact unstaffed name group found empty
    · exact (staffed name group found).1 empty

/-- A group whose names begin and end with underscores, and one without steps. -/
def underscored : Manifest :=
  .small [("_build", [("A", .routing []), ("_run_", .routing [])]), ("idle", [])]

/-- They pass the check, and as the group without steps has a sound name as well, all names are
sound. -/
theorem underscored_names_are_sound :
    underscored.validateNames = .ok () ∧ underscored.SoundNames := by
  obtain ⟨_, sound, _⟩ := names_are_checked_at_steps underscored
  have names : underscored.validateNames = .ok () := by decide
  exact ⟨names, sound.mpr ⟨names, forall_groups_iff.mpr (by decide)⟩⟩

/-- A group with a separator in its name and without steps. -/
def unstaffed : Manifest := .small [("Bad__Sub", [])]

/-- A text that describes it. -/
def unstaffedText : String :=
  "\x7b\"Bad__Sub\": \x7b\"entry_step\": \"A\", \"steps\": \x7b\x7d\x7d\x7d"

/-- The files with that text. -/
def unstaffedFiles : FileSystem :=
  (FileSystem.fresh ["work"]).put ["work", "flow.json"] (.file unstaffedText.toUTF8 .plain)

/-- Its names pass the check and it is loaded from its file, although they are not sound. -/
theorem unstaffed_group_passes :
    unstaffed.validateNames = .ok () ∧ load unstaffedFiles "/work/flow.json" = .ok unstaffed ∧
      ¬ unstaffed.SoundNames := by
  have names : unstaffed.validateNames = .ok () := by decide
  have held : unstaffedFiles.read "/work/flow.json" = .ok unstaffedText.toUTF8 := rfl
  have read := FileSystem.readText_of_read held
  have described : ofText .json unstaffedText = .ok unstaffed := by decide +kernel
  refine ⟨names, ?_, fun sound => ?_⟩
  · exact load_eq_ok_iff.mpr ⟨⟨unstaffedText, .json, read, by decide, described⟩, names⟩
  · exact absurd (sound.groups "Bad__Sub" _ rfl) (by decide +kernel)

end Manifest
end StepGraph
