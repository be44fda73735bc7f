import StepGraph.StepId

/-! Ids and their texts. Every id that comes from a text, or from a pair of names
that `ofParts` accepts, reads back from its own text. That is what keeps a stored
run readable: none of its ids is ever made in another way. Which pairs these are
is said of the names alone: the separator between them has to be the first one,
and underscores at the end of the group would move it. -/
namespace StepGraph.StepId

/-- The halves are what stands around the first separator. -/
theorem halves?_eq_some {chars front back : List Char}
    (split : halves? chars = some (front, back)) :
    chars = front ++ '_' :: '_' :: back := by
  fun_induction halves? chars generalizing front with
  | case1 => cases split
  | case2 rest =>
    cases split
    rfl
  | case3 c rest _ ih =>
    obtain ⟨halves, found, same⟩ := Option.map_eq_some_iff.mp split
    cases same
    rw [ih found]
    rfl

/-- An id that was read has the text it was read from. -/
theorem text_of_parse {raw : String} {id : StepId} (read : parse raw = .ok id) : id.text = raw := by
  unfold parse at read
  split at read
  · cases read
  · rename_i front back split
    split at read
    · cases read
    split at read
    · cases read
    split at read
    · cases read
    cases read
    rw [← String.toList_inj]
    simp [text, halves?_eq_some split]

theorem readsBack_iff {id : StepId} : id.readsBack = true ↔ parse id.text = .ok id := by
  unfold readsBack
  cases parse id.text with
  | error invalid => simp
  | ok read => simp

theorem readsBack_of_parse {raw : String} {id : StepId} (read : parse raw = .ok id) :
    id.readsBack = true := by
  rw [readsBack_iff, text_of_parse read]
  exact read

/-- An id is made of exactly the names given, and only if it reads back. -/
theorem ofParts_eq_ok {group step : String} {id : StepId} (made : ofParts group step = .ok id) :
    id = ⟨group, step⟩ ∧ id.readsBack = true := by
  simp only [ofParts] at made
  split at made
  · cases made
  split at made
  · cases made
  split at made
  · cases made
  split at made
  · rename_i back
    cases made
    exact ⟨rfl, back⟩
  · cases made

/-- The text of an id that reads back leads back to it, as data too. -/
theorem ofData?_toData {id : StepId} (back : id.readsBack = true) :
    ofData? id.toData = some id := by
  simp [ofData?, toData, Data.text?, readsBack_iff.mp back, Except.toOption]

/-- Two underscores stand next to each other somewhere. -/
def Separated (chars : List Char) : Prop := ['_', '_'] <:+: chars

instance : DecidablePred Separated := fun chars =>
  inferInstanceAs (Decidable (['_', '_'] <:+: chars))

variable {chars front back : List Char}

private theorem separated_cons {c : Char} :
    Separated (c :: chars) ↔ (c = '_' ∧ ∃ rest, chars = '_' :: rest) ∨ Separated chars := by
  unfold Separated
  rw [List.infix_cons_iff, List.cons_prefix_cons]
  refine or_congr_left (and_congr eq_comm ?_)
  constructor
  · rintro ⟨rest, rfl⟩
    exact ⟨rest, rfl⟩
  · rintro ⟨rest, rfl⟩
    exact ⟨rest, rfl⟩

/-- An underscore behind the characters makes a separator with an underscore at their end. -/
theorem separated_concat :
    Separated (chars ++ ['_']) ↔ Separated chars ∨ chars.getLast? = some '_' := by
  unfold Separated
  rw [List.infix_concat_iff, or_comm]
  refine or_congr_right ?_
  rw [List.getLast?_eq_some_iff]
  constructor
  · rintro ⟨before, whole⟩
    refine ⟨before, List.append_cancel_right (?_ : chars ++ ['_'] = before ++ ['_'] ++ ['_'])⟩
    simpa using whole.symm
  · rintro ⟨before, rfl⟩
    exact ⟨before, by simp⟩

private theorem halves?_eq_none_iff : halves? chars = none ↔ ¬ Separated chars := by
  fun_induction halves? chars with
  | case1 => decide
  | case2 rest => simp [separated_cons]
  | case3 c rest other ih =>
    rw [Option.map_eq_none_iff, ih, separated_cons, not_or, and_iff_right]
    rintro ⟨underscore, tail, same⟩
    exact other tail underscore same

/-- The separator is the leftmost one: no part of it belongs to an earlier one. -/
theorem halves?_eq_some_iff : halves? chars = some (front, back) ↔
    chars = front ++ '_' :: '_' :: back ∧ ¬ Separated (front ++ ['_']) := by
  constructor
  · intro split
    refine ⟨halves?_eq_some split, ?_⟩
    fun_induction halves? chars generalizing front with
    | case1 => cases split
    | case2 rest =>
      cases split
      decide
    | case3 c rest other ih =>
      obtain ⟨halves, found, same⟩ := Option.map_eq_some_iff.mp split
      cases same
      rw [List.cons_append, separated_cons]
      rintro (⟨underscore, tail, begins⟩ | inside)
      · -- Then the separator would stand one place further to the left.
        have whole := halves?_eq_some found
        cases front : halves.1 with
        | nil => exact other _ underscore (by simpa [front] using whole)
        | cons d more =>
          rw [front] at whole begins
          cases begins
          exact other _ underscore whole
      · exact ih found inside
  · rintro ⟨rfl, free⟩
    induction front with
    | nil => rfl
    | cons c front ih =>
      rw [List.cons_append, separated_cons, not_or] at free
      rw [List.cons_append, halves?.eq_3, ih free.2]
      · rfl
      · intro tail underscore same
        refine free.1 ⟨underscore, ?_⟩
        cases front with
        | nil => exact ⟨[], rfl⟩
        | cons d more =>
          cases same
          exact ⟨_, rfl⟩

/-- The two names can be told from the text of the id: both are there, neither has a separator
of its own, and no underscore stands right in front of the separator between them. -/
structure WellNamed (id : StepId) : Prop where
  group : id.group ≠ ""
  step : id.step ≠ ""
  group_whole : ¬ Separated id.group.toList
  step_whole : ¬ Separated id.step.toList
  group_end : id.group.toList.getLast? ≠ some '_'

variable {id : StepId}

private theorem wellNamed_iff : id.WellNamed ↔ (id.group ≠ "" ∧ id.step ≠ "") ∧
    (¬ Separated id.group.toList ∧ ¬ Separated id.step.toList) ∧
    id.group.toList.getLast? ≠ some '_' :=
  ⟨fun named => ⟨⟨named.group, named.step⟩, ⟨named.group_whole, named.step_whole⟩, named.group_end⟩,
    fun ⟨⟨group, step⟩, ⟨groupWhole, stepWhole⟩, groupEnd⟩ =>
      ⟨group, step, groupWhole, stepWhole, groupEnd⟩⟩

instance : DecidablePred WellNamed := fun _ => decidable_of_iff' _ wellNamed_iff

/-- The first separator of the text is the one between the names. -/
theorem WellNamed.halves (named : id.WellNamed) :
    halves? id.text.toList = some (id.group.toList, id.step.toList) := by
  refine halves?_eq_some_iff.mpr ⟨by simp [text], ?_⟩
  rw [separated_concat, not_or]
  exact ⟨named.group_whole, named.group_end⟩

theorem WellNamed.parse_text (named : id.WellNamed) : parse id.text = .ok id := by
  have group : id.group.toList.isEmpty = false := by simpa using named.group
  have step : id.step.toList.isEmpty = false := by simpa using named.step
  have rest : halves? id.step.toList = none := halves?_eq_none_iff.mpr named.step_whole
  simp [parse, named.halves, group, step, rest]

private theorem wellNamed_of_parse {raw : String} (read : parse raw = .ok id) : id.WellNamed := by
  unfold parse at read
  split at read
  · cases read
  rename_i front back split
  obtain ⟨-, free⟩ := halves?_eq_some_iff.mp split
  rw [separated_concat, not_or] at free
  split at read
  · cases read
  rename_i group
  split at read
  · cases read
  rename_i step
  split at read
  · cases read
  rename_i whole
  cases read
  refine ⟨?_, ?_, ?_, ?_, ?_⟩
  · simpa using group
  · simpa using step
  · simpa using free.1
  · rw [String.toList_ofList, ← halves?_eq_none_iff]
    simpa using whole
  · simpa using free.2

/-- Reading accepts exactly the texts of ids whose names can be told from them. -/
theorem parse_eq_ok_iff {raw : String} : parse raw = .ok id ↔ id.WellNamed ∧ id.text = raw := by
  constructor
  · intro read
    exact ⟨wellNamed_of_parse read, text_of_parse read⟩
  · rintro ⟨named, rfl⟩
    exact named.parse_text

private theorem hasSeparator_iff {name : String} :
    hasSeparator name = true ↔ Separated name.toList := by
  rw [hasSeparator, Option.isSome_iff_ne_none, ne_eq, halves?_eq_none_iff, Decidable.not_not]

/-- A pair of names is accepted exactly if it can be told from its text. -/
theorem ofParts_eq_ok_iff {group step : String} :
    ofParts group step = .ok id ↔ id = ⟨group, step⟩ ∧ id.WellNamed := by
  constructor
  · intro made
    obtain ⟨same, back⟩ := ofParts_eq_ok made
    exact ⟨same, wellNamed_of_parse (readsBack_iff.mp back)⟩
  · rintro ⟨rfl, named⟩
    have whole : (hasSeparator group || hasSeparator step) = false := by
      rw [Bool.or_eq_false_iff, ← Bool.not_eq_true, ← Bool.not_eq_true, hasSeparator_iff,
        hasSeparator_iff]
      exact ⟨named.group_whole, named.step_whole⟩
    have back := readsBack_iff.mpr named.parse_text
    have group : group.isEmpty = false := by simpa using named.group
    have step : step.isEmpty = false := by simpa using named.step
    simp [ofParts, group, step, whole, back]

/-- As data, an id is a text that reads as the id. -/
theorem ofData?_eq_some_iff {data : Data} :
    ofData? data = some id ↔ ∃ raw, data = .text raw ∧ parse raw = .ok id := by
  cases data with
  | text raw =>
    cases read : parse raw <;> simp [ofData?, Data.text?, Except.toOption, read]
  | _ => simp [ofData?, Data.text?]

/-- Ids and texts stand for each other. Two names make an id exactly if they can be told from its
text, and then the text reads as that id; a text reads as an id exactly if it is the text of such
an id. So no two ids that are made have the same text, and it is the same ids that are made of
names, read from texts and read from data. -/
theorem texts_stand_for_ids :
    (∀ group step id, ofParts group step = .ok id ↔ id = ⟨group, step⟩ ∧ id.WellNamed) ∧
      (∀ id : StepId, id.WellNamed → parse id.text = .ok id) ∧
      (∀ raw id, parse raw = .ok id ↔ id.WellNamed ∧ id.text = raw) ∧
      (∀ first second : StepId, first.WellNamed → second.WellNamed → first.text = second.text →
        first = second) ∧
      (∀ data id, ofData? data = some id ↔ ∃ raw, data = .text raw ∧ parse raw = .ok id) ∧
      ∀ id : StepId, ((∃ raw, parse raw = .ok id) ↔ ofParts id.group id.step = .ok id) ∧
        ((∃ data, ofData? data = some id) ↔ ofParts id.group id.step = .ok id) := by
  have accepted (id : StepId) : ofParts id.group id.step = .ok id ↔ id.WellNamed := by
    rw [ofParts_eq_ok_iff, and_iff_right rfl]
  have readable (id : StepId) : (∃ raw, parse raw = .ok id) ↔ id.WellNamed :=
    ⟨fun ⟨_, read⟩ => wellNamed_of_parse read, fun named => ⟨id.text, named.parse_text⟩⟩
  refine ⟨fun _ _ _ => ofParts_eq_ok_iff, fun _ named => named.parse_text,
    fun _ _ => parse_eq_ok_iff, ?_, fun _ _ => ofData?_eq_some_iff, fun id => ⟨?_, ?_⟩⟩
  · intro first second firstNamed secondNamed same
    have read := firstNamed.parse_text
    rw [same, secondNamed.parse_text] at read
    cases read
    rfl
  · rw [readable, accepted]
  · rw [accepted, ← readable]
    constructor
    · rintro ⟨data, read⟩
      obtain ⟨raw, -, read⟩ := ofData?_eq_some_iff.mp read
      exact ⟨raw, read⟩
    · rintro ⟨raw, read⟩
      exact ⟨.text raw, ofData?_eq_some_iff.mpr ⟨raw, rfl, read⟩⟩

/-- Of the two ways to divide a text at three underscores, the one with the underscore in front of
the step is an id, and therefore the other one is not. -/
theorem underscores_belong_to_step :
    WellNamed ⟨"_build", "_run_"⟩ ∧ parse "_build___run_" = .ok ⟨"_build", "_run_"⟩ ∧
      text ⟨"_build_", "run_"⟩ = "_build___run_" ∧ ¬ WellNamed ⟨"_build_", "run_"⟩ := by
  obtain ⟨-, reads, -, distinct, -⟩ := texts_stand_for_ids
  have named : WellNamed ⟨"_build", "_run_"⟩ := by decide
  refine ⟨named, reads _ named, by decide, fun other => ?_⟩
  exact absurd (distinct _ _ named other (by decide)) (by decide)

end StepGraph.StepId
