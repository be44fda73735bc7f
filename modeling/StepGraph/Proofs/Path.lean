import StepGraph.Path
import Mathlib.Data.List.TakeWhile

/-! Where paths end. The segments of two texts with a slash between them are those of both,
and no segment has a slash. So a path that has a file name ends with it, but for parts that
mean nothing, and a path that has been given another name ends with that. -/
namespace StepGraph.Path

theorem segments_ne_nil (chars : List Char) : segments chars ≠ [] := by
  unfold segments
  split
  · nofun
  · nofun
  · split <;> nofun

/-- A character that is no slash belongs to the first segment. -/
theorem segments_cons {c : Char} (plain : c ≠ '/') (rest : List Char) :
    ∃ first others, segments rest = first :: others ∧
      segments (c :: rest) = (c :: first) :: others := by
  obtain ⟨first, others, split⟩ := List.exists_cons_of_ne_nil (segments_ne_nil rest)
  refine ⟨first, others, split, ?_⟩
  rw [segments, split]
  exact plain

theorem segments_append_slash (front back : List Char) :
    segments (front ++ '/' :: back) = segments front ++ segments back := by
  induction front with
  | nil => rfl
  | cons c rest ih =>
    by_cases slash : c = '/'
    · subst slash
      simp only [List.cons_append, segments, ih]
    · obtain ⟨first, others, split, same⟩ := segments_cons slash rest
      obtain ⟨_, _, parted, whole⟩ := segments_cons slash (rest ++ '/' :: back)
      rw [ih, split] at parted
      cases parted
      rw [List.cons_append, whole, same]
      rfl

theorem segments_of_not_mem {chars : List Char} (plain : '/' ∉ chars) :
    segments chars = [chars] := by
  induction chars with
  | nil => rfl
  | cons c rest ih =>
    obtain ⟨differs, others⟩ := List.ne_and_not_mem_of_not_mem_cons plain
    obtain ⟨_, _, split, same⟩ := segments_cons (Ne.symm differs) rest
    rw [ih others] at split
    cases split
    exact same

/-- What has no slash goes on with the last segment. -/
theorem segments_append {chars behind : List Char} (plain : '/' ∉ behind)
    {front : List (List Char)} {last : List Char} (split : segments chars = front ++ [last]) :
    segments (chars ++ behind) = front ++ [last ++ behind] := by
  induction chars generalizing front last with
  | nil =>
    obtain ⟨rfl, rfl⟩ : front = [] ∧ last = [] := by
      cases front with
      | nil => exact ⟨rfl, (List.singleton_inj.mp split).symm⟩
      | cons => simp [segments] at split
    exact segments_of_not_mem plain
  | cons c rest ih =>
    by_cases slash : c = '/'
    · subst slash
      rw [segments] at split
      cases front with
      | nil => exact absurd (List.cons.inj split).2 (segments_ne_nil rest)
      | cons segment front =>
        obtain ⟨rfl, whole⟩ := List.cons.inj split
        rw [List.cons_append, segments, ih whole]
        rfl
    · obtain ⟨first, others, parts, same⟩ := segments_cons slash rest
      obtain ⟨again, further, whole, joined⟩ := segments_cons slash (rest ++ behind)
      rw [same] at split
      rw [List.cons_append, joined]
      cases front with
      | nil =>
        obtain ⟨rfl, rfl⟩ := List.cons.inj split
        rw [ih (show segments rest = [] ++ [first] from parts)] at whole
        obtain ⟨rfl, rfl⟩ := List.cons.inj whole
        rfl
      | cons segment front =>
        obtain ⟨rfl, rfl⟩ := List.cons.inj split
        rw [ih (show segments rest = (first :: front) ++ [last] from parts)] at whole
        obtain ⟨rfl, rfl⟩ := List.cons.inj whole
        rfl

theorem not_mem_of_mem_segments {chars segment : List Char} (member : segment ∈ segments chars) :
    '/' ∉ segment := by
  induction chars generalizing segment with
  | nil =>
    cases List.mem_singleton.mp member
    exact List.not_mem_nil
  | cons c rest ih =>
    by_cases slash : c = '/'
    · subst slash
      rcases List.mem_cons.mp member with rfl | behind
      · exact List.not_mem_nil
      · exact ih behind
    · obtain ⟨first, others, split, same⟩ := segments_cons slash rest
      rw [same] at member
      rw [split] at ih
      rcases List.mem_cons.mp member with rfl | behind
      · exact List.not_mem_cons_of_ne_of_not_mem (Ne.symm slash) (ih List.mem_cons_self)
      · exact ih (List.mem_cons_of_mem _ behind)

/-! ## Components -/

theorem component?_eq_above_iff {segment : List Char} :
    component? segment = some .above ↔ segment = ['.', '.'] := by
  unfold component?
  split
  · rename_i nothing
    rcases nothing with rfl | rfl <;> simp
  · split
    · rename_i above
      simp [above]
    · rename_i other
      simp [other]

theorem component?_ne_root (segment : List Char) : component? segment ≠ some .root := by
  unfold component?
  split
  · nofun
  · split <;> nofun

/-- The root is the first component of an absolute path. -/
theorem components_of_isAbsolute {path : String} (absolute : isAbsolute path = true) :
    ∃ behind, components path = .root :: behind := by
  obtain ⟨first, rest, parts⟩ := List.exists_cons_of_ne_nil (segments_ne_nil path.toList)
  refine ⟨rest.filterMap component?, ?_⟩
  simp only [components, parts, if_pos absolute, List.cons_append, List.nil_append]

/-- A path starts at the root when nothing stands in front of its first slash. -/
theorem isAbsolute_iff {path : String} :
    isAbsolute path = true ↔ ∃ second rest, segments path.toList = [] :: second :: rest := by
  unfold isAbsolute
  split
  · rename_i rest whole
    obtain ⟨first, others, parts⟩ := List.exists_cons_of_ne_nil (segments_ne_nil rest)
    simp only [true_iff]
    exact ⟨first, others, by rw [whole, segments, parts]⟩
  · rename_i plain
    simp only [Bool.false_eq_true, false_iff]
    rintro ⟨second, rest, parts⟩
    cases whole : path.toList with
    | nil =>
      rw [whole] at parts
      cases parts
    | cons c behind =>
      have differs : c ≠ '/' := fun same => plain behind (same ▸ whole)
      obtain ⟨_, _, _, same⟩ := segments_cons differs behind
      rw [whole, same] at parts
      cases parts

/-- What a segment means is a component of the path. -/
theorem mem_components_of_mem_segments {path : String} {segment : List Char}
    {component : Component} (member : segment ∈ segments path.toList)
    (means : component? segment = some component) : component ∈ components path := by
  obtain ⟨first, rest, parts⟩ := List.exists_cons_of_ne_nil (segments_ne_nil path.toList)
  rw [parts] at member
  simp only [components, parts]
  rcases List.mem_cons.mp member with rfl | behind
  · have written : segment ≠ [] := by
      rintro rfl
      cases means
    have relative : isAbsolute path = false := by
      rw [← Bool.not_eq_true, isAbsolute_iff]
      rintro ⟨_, _, absolute⟩
      rw [parts] at absolute
      exact written (List.cons.inj absolute).1
    have meaning : segment ≠ ['.'] := by
      rintro rfl
      cases means
    apply List.mem_append_left
    simp [relative, meaning, means]
  · exact List.mem_append_right _ (List.mem_filterMap.mpr ⟨segment, behind, means⟩)

/-- The components of a relative path in one piece: the point counts at the beginning only. -/
theorem mem_components_of_relative {path : String} (relative : isAbsolute path = false)
    {component : Component} : component ∈ components path ↔
      (component = .here ∧ (segments path.toList).head? = some ['.']) ∨
        ∃ segment ∈ segments path.toList, component? segment = some component := by
  obtain ⟨first, rest, parts⟩ := List.exists_cons_of_ne_nil (segments_ne_nil path.toList)
  have start : components path =
      (if first = ['.'] then [.here] else (component? first).toList) ++
        rest.filterMap component? := by
    simp only [components, parts, relative, Bool.false_eq_true, if_false]
  rw [start, parts, List.mem_append, List.mem_filterMap]
  by_cases here : first = ['.']
  · subst here
    simp [component?]
  · simp [here]

/-! ## Names -/

/-- A path ends with this name, but for parts that mean nothing. -/
structure EndsWith (path name : String) : Prop where
  split : ∃ front behind, segments path.toList = front ++ name.toList :: behind ∧
    ∀ segment ∈ behind, segment = [] ∨ segment = ['.']
  named : component? name.toList = some (.name name)

private theorem component?_eq_none {segment : List Char} (nothing : component? segment = none) :
    segment = [] ∨ segment = ['.'] := by
  unfold component? at nothing
  split at nothing
  · assumption
  · split at nothing <;> cases nothing

private theorem component?_eq_name {segment : List Char} {name : String}
    (named : component? segment = some (.name name)) : segment = name.toList := by
  unfold component? at named
  split at named
  · cases named
  · split at named
    · cases named
    · cases named
      exact (String.toList_ofList).symm

/-- A name is neither empty nor made of points that stand for a directory. -/
theorem component?_eq_name_iff {name : String} :
    component? name.toList = some (.name name) ↔ name ≠ "" ∧ name ≠ "." ∧ name ≠ ".." := by
  constructor
  · intro named
    refine ⟨?_, ?_, ?_⟩ <;> rintro rfl <;> exact absurd named (by decide)
  · rintro ⟨filled, notHere, notAbove⟩
    have differs : ∀ other, name ≠ other → name.toList ≠ other.toList := fun other differs same =>
      differs (String.toList_inj.mp same)
    have meaning : ¬ (name.toList = [] ∨ name.toList = ['.']) := by
      rintro (same | same)
      · exact differs "" filled same
      · exact differs "." notHere same
    have below : name.toList ≠ ['.', '.'] := differs ".." notAbove
    rw [component?, if_neg meaning, if_neg below, String.ofList_toList]

/-- What is dropped in front of the last component means nothing. -/
theorem dropMeaningless_eq {dropped kept : List (List Char)}
    (drops : dropMeaningless dropped = kept) :
    ∃ behind, dropped = behind ++ kept ∧ ∀ segment ∈ behind, segment = [] ∨ segment = ['.'] := by
  subst drops
  refine ⟨_, List.takeWhile_append_dropWhile.symm, ?_⟩
  intro segment member
  have nothing := List.mem_takeWhile_imp member
  exact component?_eq_none (Option.isNone_iff_eq_none.mp nothing)

/-- The last component of a path is that of a segment, behind which nothing has a meaning; or it is
the point with which the path begins. -/
theorem last?_eq_some {path : String} {component : Component} {before : List (List Char)}
    (last : last? path = some (component, before)) :
    ∃ segment behind, segments path.toList = before.reverse ++ segment :: behind ∧
      (∀ part ∈ behind, part = [] ∨ part = ['.']) ∧
      (component? segment = some component ∨ component = .here ∧ before = []) := by
  unfold last? at last
  split at last
  · cases last
  rename_i first rest parts
  split at last
  · rename_i segment above dropped
    obtain ⟨found, named, same⟩ := Option.map_eq_some_iff.mp last
    cases same
    obtain ⟨behind, reversed, nothing⟩ := dropMeaningless_eq dropped
    have whole : rest = above.reverse ++ segment :: behind.reverse := by
      simpa using congrArg List.reverse reversed
    refine ⟨segment, behind.reverse, by simp [parts, whole], ?_, Or.inl named⟩
    exact fun part member => nothing part (List.mem_reverse.mp member)
  · rename_i dropped
    obtain ⟨behind, reversed, nothing⟩ := dropMeaningless_eq dropped
    have whole : rest = behind.reverse := by
      simpa using congrArg List.reverse reversed
    have nothingBehind : ∀ part ∈ behind.reverse, part = [] ∨ part = ['.'] :=
      fun part member => nothing part (List.mem_reverse.mp member)
    split at last
    · cases last
    split at last
    · cases last
      exact ⟨first, behind.reverse, by simp [parts, whole], nothingBehind, Or.inr ⟨rfl, rfl⟩⟩
    · obtain ⟨found, named, same⟩ := Option.map_eq_some_iff.mp last
      cases same
      exact ⟨first, behind.reverse, by simp [parts, whole], nothingBehind, Or.inl named⟩

/-- The segment of the last component, where a path has one that is a name. -/
theorem endsWith_of_last? {path name : String} {before : List (List Char)}
    (last : last? path = some (.name name, before)) : EndsWith path name := by
  obtain ⟨segment, behind, parts, nothing, named | ⟨impossible, _⟩⟩ := last?_eq_some last
  · obtain rfl := component?_eq_name named
    exact ⟨⟨before.reverse, behind, parts, nothing⟩, named⟩
  · cases impossible

private theorem last?_of_fileName? {path name : String} (named : fileName? path = some name) :
    ∃ before, last? path = some (.name name, before) := by
  obtain ⟨⟨component, before⟩, last, named⟩ := Option.bind_eq_some_iff.mp named
  cases component with
  | name found =>
    cases named
    exact ⟨before, last⟩
  | _ => cases named

/-- A path that has a file name ends with it. -/
theorem endsWith_of_fileName? {path name : String} (named : fileName? path = some name) :
    EndsWith path name := by
  obtain ⟨_, last⟩ := last?_of_fileName? named
  exact endsWith_of_last? last

/-- A name has no slash. -/
theorem EndsWith.not_mem {path name : String} (ends : EndsWith path name) : '/' ∉ name.toList := by
  obtain ⟨front, behind, parts, _⟩ := ends.split
  have member : name.toList ∈ segments path.toList := by
    rw [parts]
    exact List.mem_append_right _ List.mem_cons_self
  exact not_mem_of_mem_segments member

/-- A path starts at the root when its first character is the slash. -/
theorem isAbsolute_eq (path : String) :
    isAbsolute path = decide (path.toList.head? = some '/') := by
  unfold isAbsolute
  split
  · rename_i slash
    simp [slash]
  · rename_i none
    cases whole : path.toList with
    | nil => rfl
    | cons c rest =>
      have differs : c ≠ '/' := fun same => none rest (same ▸ whole)
      simp [differs]

theorem isAbsolute_of_not_mem {path : String} (plain : '/' ∉ path.toList) :
    isAbsolute path = false := by
  rw [isAbsolute_eq, decide_eq_false_iff_not]
  exact fun slash => plain (List.mem_of_head? slash)

/-- What has no slash makes no difference to where a path starts. -/
theorem isAbsolute_append {path suffix : String} (plain : '/' ∉ suffix.toList) :
    isAbsolute (path ++ suffix) = isAbsolute path := by
  rw [isAbsolute_eq, isAbsolute_eq, String.toList_append]
  cases path.toList with
  | nil =>
    rw [List.nil_append, ← isAbsolute_eq, isAbsolute_of_not_mem plain]
    rfl
  | cons => rfl

/-- Between a path and what is joined to it stands one slash, unless the path is empty. -/
theorem toList_join {base below : String} (relative : isAbsolute below = false) :
    (base = "" ∧ (join base below).toList = below.toList) ∨
      base ≠ "" ∧ ∃ front, (base.toList = front ∨ base.toList = front ++ ['/']) ∧
        (join base below).toList = front ++ '/' :: below.toList := by
  unfold join
  rw [if_neg (by simp [relative])]
  by_cases empty : base = ""
  · subst empty
    exact Or.inl ⟨rfl, rfl⟩
  have filled : base.isEmpty = false := by simpa using empty
  refine Or.inr ⟨empty, ?_⟩
  rw [filled, Bool.false_or]
  split
  · rename_i ends
    obtain ⟨front, whole⟩ := List.getLast?_eq_some_iff.mp (of_decide_eq_true ends)
    exact ⟨front, Or.inr whole, by simp [whole]⟩
  · exact ⟨base.toList, Or.inl rfl, by simp⟩

/-- A path to which a relative one is joined starts where it started. -/
theorem isAbsolute_join {base below : String} (relative : isAbsolute below = false) :
    isAbsolute (join base below) = isAbsolute base := by
  have shape : (base = "" ∧ _) ∨ _ := toList_join relative
  rcases shape with ⟨empty, whole⟩ | ⟨filled, front, written, whole⟩
  · rw [isAbsolute_eq, whole, ← isAbsolute_eq, relative, empty]
    rfl
  rw [isAbsolute_eq, isAbsolute_eq, whole]
  rcases written with same | same
  · have started : front ≠ [] := fun none => filled (String.toList_inj.mp (same.trans none))
    obtain ⟨c, rest, rfl⟩ := List.exists_cons_of_ne_nil started
    rw [same]
    rfl
  · rw [same]
    cases front <;> rfl

/-- A path that is made of another one by joining a name to it ends with that. -/
theorem endsWith_join {base name : String} (plain : '/' ∉ name.toList)
    (named : component? name.toList = some (.name name)) : EndsWith (join base name) name := by
  have alone := segments_of_not_mem plain
  refine ⟨?_, named⟩
  rcases toList_join (isAbsolute_of_not_mem plain) with ⟨_, whole⟩ | ⟨_, front, _, whole⟩
  · exact ⟨[], [], by rw [whole, alone]; rfl, nofun⟩
  · exact ⟨segments front, [], by rw [whole, segments_append_slash, alone], nofun⟩

/-- A path that has been given another name ends with that. -/
theorem endsWith_withFileName (path : String) {name : String} (plain : '/' ∉ name.toList)
    (named : component? name.toList = some (.name name)) :
    EndsWith (withFileName path name) name := by
  unfold withFileName
  split <;> exact endsWith_join plain named

/-! ## Parents -/

/-- Segments that are written with slashes between them are read again. -/
theorem segments_intercalate {parts : List (List Char)} (filled : parts ≠ [])
    (plain : ∀ part ∈ parts, '/' ∉ part) :
    segments ("/".intercalate (parts.map String.ofList)).toList = parts := by
  induction parts with
  | nil => exact absurd rfl filled
  | cons first others ih =>
    obtain ⟨alone, behind⟩ := List.forall_mem_cons.mp plain
    cases others with
    | nil => simpa using segments_of_not_mem alone
    | cons second rest =>
      have written : ("/".intercalate ((first :: second :: rest).map String.ofList)).toList =
          first ++ '/' :: ("/".intercalate ((second :: rest).map String.ofList)).toList := by
        simp [String.intercalate_cons_cons]
      rw [written, segments_append_slash, segments_of_not_mem alone, ih nofun behind]
      rfl

private theorem segments_textOf {kept : List (List Char)} {first : List Char}
    (plain : ∀ part ∈ first :: kept.reverse, '/' ∉ part) :
    segments (textOf (kept ++ [first])).toList = first :: kept.reverse := by
  have written : textOf (kept ++ [first]) =
      "/".intercalate ((first :: kept.reverse).map String.ofList) := by
    simp [textOf]
  rw [written]
  exact segments_intercalate nofun plain

/-- The parent of a path is empty if nothing is in front of the last component. Otherwise it starts
where the path starts, and goes along the segments in front of that component. -/
theorem parent?_eq_some {path parent : String} (above : parent? path = some parent) :
    ∃ component before, last? path = some (component, before) ∧
      (before = [] ∧ parent = "" ∨ before ≠ [] ∧ isAbsolute parent = isAbsolute path ∧
        (segments parent.toList).filter (· ≠ []) <+: before.reverse.filter (· ≠ [])) := by
  obtain ⟨⟨component, before⟩, last, above⟩ := Option.bind_eq_some_iff.mp above
  refine ⟨component, before, last, ?_⟩
  obtain ⟨segment, behind, parts, _, _⟩ := last?_eq_some last
  have plain : ∀ part ∈ before.reverse, '/' ∉ part := by
    intro part member
    have among : part ∈ segments path.toList := by
      rw [parts]
      exact List.mem_append_left _ member
    exact not_mem_of_mem_segments among
  dsimp only at above
  split at above
  · rename_i nothing
    cases above
    exact Or.inl ⟨List.reverse_eq_nil_iff.mp nothing, rfl⟩
  rename_i first rest order
  have filled : before ≠ [] := by
    rintro rfl
    cases order
  refine Or.inr ⟨filled, ?_⟩
  rw [order] at plain parts ⊢
  obtain ⟨alone, others⟩ := List.forall_mem_cons.mp plain
  split at above
  · split at above
    · rename_i absolute
      cases above
      exact ⟨absolute.symm, List.nil_prefix⟩
    · rename_i relative
      cases above
      rw [String.toList_ofList, segments_of_not_mem alone]
      refine ⟨?_, (List.prefix_append [first] rest).filter _⟩
      rw [isAbsolute_of_not_mem (by rwa [String.toList_ofList]), Bool.eq_false_iff.mpr relative]
  · rename_i further
    cases above
    obtain ⟨dropped, reversed, _⟩ := dropMeaningless_eq (rfl : dropMeaningless rest.reverse = _)
    generalize dropMeaningless rest.reverse = kept at further reversed ⊢
    have whole : rest = kept.reverse ++ dropped.reverse := by
      simpa using congrArg List.reverse reversed
    have read : segments (textOf (kept ++ [first])).toList = first :: kept.reverse := by
      refine segments_textOf (List.forall_mem_cons.mpr ⟨alone, ?_⟩)
      intro part member
      exact others part (by simp [whole, List.mem_reverse.mp member])
    refine ⟨?_, ?_⟩
    · have more : kept.reverse ≠ [] := fun none => further (List.reverse_eq_nil_iff.mp none)
      obtain ⟨second, later, order⟩ := List.exists_cons_of_ne_nil more
      rw [Bool.eq_iff_iff, isAbsolute_iff, isAbsolute_iff, read, parts, whole, order]
      simp
    · rw [read, whole]
      exact (List.prefix_append (first :: kept.reverse) dropped.reverse).filter _

end StepGraph.Path
