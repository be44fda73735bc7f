import StepGraph.Proofs.FileSystem.Refusal

/-! Where paths lead once their points are resolved. What is joined to a path is a place right in
the directory of that path exactly when it is a name, that is, neither an absolute path nor one
of several parts, and none that stands for the directory itself or for the one above. A path that
does not lead up ends further down than all the paths above it. -/
namespace StepGraph.FileSystem

variable {files changed : FileSystem} {location place cwd : Location} {base below name : String}

/-- A text that names something in a directory. -/
def IsName (name : String) : Prop :=
  name ≠ "" ∧ name ≠ "." ∧ name ≠ ".." ∧ '/' ∉ name.toList

instance : DecidablePred IsName := fun name =>
  inferInstanceAs (Decidable (name ≠ "" ∧ name ≠ "." ∧ name ≠ ".." ∧ '/' ∉ name.toList))

private theorem follow_of_isName (isName : IsName name) (place : Location) :
    follow place name = place ++ [name] := by
  obtain ⟨_, notHere, notAbove, _⟩ := isName
  rw [follow, if_neg notHere, if_neg notAbove]

theorem names_of_isName (isName : IsName name) : names name = [name] := by
  obtain ⟨filled, _, _, plain⟩ := isName
  have written : name.toList ≠ [] := fun none => filled (String.toList_inj.mp none)
  rw [names, Path.segments_of_not_mem plain, List.filter_cons_of_pos (by simpa using written)]
  simp

/-- What has no slash is written on behind the last name of a path. -/
theorem names_append (text : String) : ∃ front last, ∀ suffix : String, suffix ≠ "" →
    '/' ∉ suffix.toList → names (text ++ suffix) = front ++ [last ++ suffix] := by
  obtain ⟨front, last, parts⟩ :=
    (List.eq_nil_or_concat' _).resolve_left (Path.segments_ne_nil text.toList)
  refine ⟨(front.filter (· ≠ [])).map String.ofList, String.ofList last, ?_⟩
  intro suffix filled plain
  have written : suffix.toList ≠ [] := fun none => filled (String.toList_inj.mp none)
  rw [names, String.toList_append, Path.segments_append plain parts, List.filter_append,
    List.filter_cons_of_pos (by simp [written]), List.map_append, List.map_cons,
    String.ofList_append, String.ofList_toList]
  rfl

theorem isAbsolute_of_isName (isName : IsName name) : Path.isAbsolute name = false := by
  obtain ⟨_, _, _, plain⟩ := isName
  exact Path.isAbsolute_of_not_mem plain

/-- The names of a path have no slash and are not empty. -/
theorem plain_of_mem_names {path : String} (member : name ∈ names path) :
    name ≠ "" ∧ '/' ∉ name.toList := by
  obtain ⟨segment, kept, rfl⟩ := List.mem_map.mp member
  obtain ⟨segment_mem, written⟩ := List.mem_filter.mp kept
  have plain := Path.not_mem_of_mem_segments segment_mem
  refine ⟨?_, by rwa [String.toList_ofList]⟩
  intro empty
  have nothing : segment = [] := by simpa using congrArg String.toList empty
  simp [nothing] at written

theorem append_ne_of_length_lt {front suffix short : String} (less : short.length < suffix.length) :
    front ++ suffix ≠ short := by
  rintro rfl
  rw [String.length_append] at less
  omega

/-- A longer text is a name as long as it has no slash. -/
theorem isName_append_iff {front suffix : String} (long : 3 ≤ suffix.length)
    (plain : '/' ∉ suffix.toList) : IsName (front ++ suffix) ↔ '/' ∉ front.toList := by
  have differs : ∀ short : String, short.length < 3 → front ++ suffix ≠ short :=
    fun _ short => append_ne_of_length_lt (Nat.lt_of_lt_of_le short long)
  unfold IsName
  rw [String.toList_append, List.mem_append, not_or]
  constructor
  · rintro ⟨_, _, _, whole, _⟩
    exact whole
  · intro whole
    exact ⟨differs "" (by decide), differs "." (by decide), differs ".." (by decide), whole, plain⟩

/-- A path without a component for the directory above has no name for it. -/
theorem above_not_mem_names {path : String} (flat : .above ∉ Path.components path) :
    ".." ∉ names path := by
  intro member
  obtain ⟨segment, kept, same⟩ := List.mem_map.mp member
  obtain ⟨part, _⟩ := List.mem_filter.mp kept
  have points : segment = ['.', '.'] := by simpa using congrArg String.toList same
  exact flat
    (Path.mem_components_of_mem_segments part (Path.component?_eq_above_iff.mpr points))

/-- Without the directory above, names only lead down. -/
theorem prefix_foldl_follow {names : List String} (flat : ".." ∉ names)
    (start : Location) : start <+: names.foldl follow start := by
  induction names generalizing start with
  | nil => exact List.prefix_refl start
  | cons name rest ih =>
    obtain ⟨notAbove, others⟩ := List.ne_and_not_mem_of_not_mem_cons flat
    have down : start <+: follow start name := by
      unfold follow
      split
      · exact List.prefix_refl start
      · rw [if_neg (Ne.symm notAbove)]
        exact List.prefix_append start [name]
    exact down.trans (ih others (follow start name))

/-- The names of a relative path come behind those of the path to which it is joined. -/
theorem names_join (relative : Path.isAbsolute below = false) :
    names (Path.join base below) = names base ++ names below := by
  have shape : (base = "" ∧ _) ∨ _ := Path.toList_join relative
  rcases shape with ⟨rfl, whole⟩ | ⟨_, front, written, whole⟩
  · rw [String.toList_inj.mp whole]
    rfl
  have first : names base = ((Path.segments front).filter (· ≠ [])).map String.ofList := by
    rcases written with same | same
    · rw [names, same]
    · rw [names, same, Path.segments_append_slash, List.filter_append]
      simp [Path.segments]
  rw [first, names, whole, Path.segments_append_slash, List.filter_append, List.map_append]
  rfl

/-- A relative path leads on from where the path leads to which it is joined. -/
theorem destination_join (relative : Path.isAbsolute below = false) :
    destination cwd (Path.join base below) = (names below).foldl follow (destination cwd base) := by
  rw [destination, Path.isAbsolute_join relative, names_join relative, List.foldl_append]
  rfl

/-- An absolute path leads where it leads alone. -/
theorem destination_join_of_isAbsolute (absolute : Path.isAbsolute below = true) :
    destination cwd (Path.join base below) = (names below).foldl follow [] := by
  rw [Path.join, if_pos absolute, destination, if_pos absolute]

/-- Files that are joined to one path lie in one directory when their names differ only at the
end. -/
theorem destination_join_append (cwd : Location) (base text : String) :
    ∃ place last, ∀ suffix : String, 3 ≤ suffix.length → '/' ∉ suffix.toList →
      destination cwd (Path.join base (text ++ suffix)) = place ++ [last ++ suffix] := by
  obtain ⟨front, last, ends⟩ := names_append text
  obtain ⟨start, joined⟩ : ∃ start, ∀ suffix : String, '/' ∉ suffix.toList →
      destination cwd (Path.join base (text ++ suffix)) =
        (names (text ++ suffix)).foldl follow start := by
    cases absolute : Path.isAbsolute text with
    | false => exact ⟨_, fun suffix plain =>
        destination_join ((Path.isAbsolute_append plain).trans absolute)⟩
    | true => exact ⟨_, fun suffix plain =>
        destination_join_of_isAbsolute ((Path.isAbsolute_append plain).trans absolute)⟩
  refine ⟨front.foldl follow start, last, fun suffix long plain => ?_⟩
  have differs : ∀ short : String, short.length < 3 → last ++ suffix ≠ short :=
    fun _ short => append_ne_of_length_lt (Nat.lt_of_lt_of_le short long)
  have filled : suffix ≠ "" := by
    rintro rfl
    exact absurd long (by decide)
  rw [joined suffix plain, ends suffix filled plain, List.foldl_append, List.foldl_cons,
    List.foldl_nil, follow, if_neg (differs "." (by decide)), if_neg (differs ".." (by decide))]

/-- Names lead up and then down: what remains of the place at which they start is the beginning
of it, and what is added behind that are names. -/
theorem foldl_follow_eq {names : List String}
    (plain : ∀ name ∈ names, name ≠ "" ∧ '/' ∉ name.toList) (start : Location) :
    ∃ kept added, names.foldl follow start = kept ++ added ∧ kept <+: start ∧
      ∀ name ∈ added, IsName name := by
  -- What the names so far have kept and added is given; each further name changes its end.
  suffices goes : ∀ (names : List String) (kept added : Location),
      (∀ name ∈ names, name ≠ "" ∧ '/' ∉ name.toList) → kept <+: start →
      (∀ name ∈ added, IsName name) →
      ∃ left behind, names.foldl follow (kept ++ added) = left ++ behind ∧ left <+: start ∧
        ∀ name ∈ behind, IsName name by
    have whole := goes names start [] plain (List.prefix_refl start) (List.forall_mem_nil _)
    rwa [List.append_nil] at whole
  intro names
  induction names with
  | nil => exact fun kept added _ front isNames => ⟨kept, added, rfl, front, isNames⟩
  | cons name rest ih =>
    intro kept added plain front isNames
    obtain ⟨⟨filled, whole⟩, others⟩ := List.forall_mem_cons.mp plain
    rw [List.foldl_cons, follow]
    split
    · exact ih kept added others front isNames
    rename_i notHere
    split
    · rcases List.eq_nil_or_concat' added with rfl | ⟨before, last, rfl⟩
      · rw [List.append_nil, ← List.append_nil kept.dropLast]
        exact ih _ [] others ((List.dropLast_prefix kept).trans front) isNames
      · rw [← List.append_assoc, List.dropLast_concat]
        exact ih _ before others front fun name member =>
          isNames name (List.mem_append_left _ member)
    · rename_i notAbove
      rw [List.append_assoc]
      refine ih kept _ others front fun other member => ?_
      rcases List.mem_append.mp member with earlier | last
      · exact isNames other earlier
      · rw [List.mem_singleton.mp last]
        exact ⟨filled, notHere, notAbove, whole⟩

/-- Names that lead right below a place from no further down end with the name of that place. -/
theorem isName_of_foldl_follow {names : List String} {start : Location}
    (plain : ∀ name ∈ names, name ≠ "" ∧ '/' ∉ name.toList)
    (below : names.foldl follow start = place ++ [name]) (short : start.length ≤ place.length) :
    IsName name := by
  obtain ⟨kept, added, whole, front, isNames⟩ := foldl_follow_eq plain start
  rw [whole] at below
  rcases List.eq_nil_or_concat' added with rfl | ⟨before, last, rfl⟩
  · have length := congrArg List.length below
    have bound := front.length_le
    simp at length
    omega
  · rw [← List.append_assoc] at below
    obtain rfl := List.singleton_inj.mp (List.append_inj_right' below rfl)
    exact isNames _ (by simp)

/-- What is joined to a path leads right into the directory of the path, to the place of that
name, exactly when it is a name. -/
theorem destination_join_iff :
    destination cwd (Path.join base name) = destination cwd base ++ [name] ↔ IsName name := by
  constructor
  · intro below
    cases absolute : Path.isAbsolute name with
    | false =>
      rw [destination_join absolute] at below
      exact isName_of_foldl_follow (fun _ => plain_of_mem_names) below (Nat.le_refl _)
    | true =>
      rw [destination_join_of_isAbsolute absolute] at below
      exact isName_of_foldl_follow (fun _ => plain_of_mem_names) below (Nat.zero_le _)
  · intro isName
    rw [destination_join (isAbsolute_of_isName isName), names_of_isName isName]
    exact follow_of_isName isName _

/-- The path starts where the other one does and goes along names in front of its end; or it is
empty. -/
def IsAbove (path above : String) : Prop :=
  above = "" ∨ Path.isAbsolute above = Path.isAbsolute path ∧
    ∃ rest, names path = names above ++ rest ∧ ∃ name ∈ rest, name ≠ "."

theorem isAbove_parent? {path parent : String} (above : Path.parent? path = some parent) :
    IsAbove path parent := by
  obtain ⟨component, before, last, ⟨_, empty⟩ | ⟨filled, start, along⟩⟩ :=
    Path.parent?_eq_some above
  · exact Or.inl empty
  obtain ⟨segment, behind, parts, _, means | ⟨_, none⟩⟩ := Path.last?_eq_some last
  case inr => exact absurd none filled
  have written : ¬(segment = [] ∨ segment = ['.']) := by
    intro blank
    rw [Path.component?, if_pos blank] at means
    cases means
  rw [not_or] at written
  obtain ⟨between, front⟩ := along.map String.ofList
  refine Or.inr ⟨start, between ++ ((segment :: behind).filter (· ≠ [])).map String.ofList, ?_,
    String.ofList segment, ?_, ?_⟩
  · rw [← List.append_assoc, names, names, front, parts, List.filter_append, List.map_append]
  · simp [written.1]
  · intro point
    exact written.2 (by simpa using congrArg String.toList point)

theorem IsAbove.parent? {path above parent : String} (isAbove : IsAbove path above)
    (further : Path.parent? above = some parent) : IsAbove path parent := by
  rcases isAbove with rfl | ⟨start, rest, whole, name, among, notHere⟩
  · cases further
  rcases isAbove_parent? further with empty | ⟨same, between, parts, _⟩
  · exact Or.inl empty
  · refine Or.inr ⟨same.trans start, between ++ rest, ?_, name, ?_, notHere⟩
    · rw [whole, parts, List.append_assoc]
    · exact List.mem_append_right between among

/-- Names that do not lead up lead further down, unless all of them are points. -/
theorem length_lt_foldl_follow {names : List String} (flat : ".." ∉ names)
    (named : ∃ name ∈ names, name ≠ ".") (start : Location) :
    start.length < (names.foldl follow start).length := by
  obtain ⟨name, among, notHere⟩ := named
  obtain ⟨front, behind, rfl⟩ := List.append_of_mem among
  rw [List.mem_append, not_or] at flat
  obtain ⟨before, others⟩ := flat
  obtain ⟨notAbove, after⟩ := List.ne_and_not_mem_of_not_mem_cons others
  have down := (prefix_foldl_follow before start).length_le
  have further := (prefix_foldl_follow after (front.foldl follow start ++ [name])).length_le
  rw [List.foldl_append, List.foldl_cons, follow, if_neg notHere, if_neg (Ne.symm notAbove)]
  rw [List.length_append, List.length_singleton] at further
  omega

/-- Whatever the one tree holds apart from these places, the other holds there too. -/
structure KeepsApart (places : List Location) (files changed : FileSystem) : Prop where
  nodes : ∀ place ∉ places, ∀ node, files.get? place = some node →
    changed.get? place = some node
  cwd : changed.cwd = files.cwd

variable {places : List Location} {path : String} {content : ByteArray}

theorem Grows.keepsApart (grows : files.Grows changed) (places : List Location) :
    KeepsApart places files changed :=
  ⟨fun place _ => grows.nodes place, grows.cwd⟩

theorem KeepsApart.refl (places : List Location) (files : FileSystem) :
    KeepsApart places files files :=
  (Grows.refl files).keepsApart places

theorem KeepsApart.trans {last : FileSystem} (first : KeepsApart places files changed)
    (second : KeepsApart places changed last) : KeepsApart places files last :=
  ⟨fun place apart node here => second.nodes place apart node (first.nodes place apart node here),
    second.cwd.trans first.cwd⟩

theorem KeepsApart.mono {more : List Location} (keeps : KeepsApart places files changed)
    (among : places ⊆ more) : KeepsApart more files changed :=
  ⟨fun place apart => keeps.nodes place fun member => apart (among member), keeps.cwd⟩

/-- A file is written at its destination and nowhere else. -/
theorem get?_of_write (written : files.write path content = .ok changed)
    (apart : place ≠ destination files.cwd path) : changed.get? place = files.get? place := by
  obtain ⟨_, _, mode, leads, _, _, rfl⟩ := write_eq_ok written
  cases leads.eq_destination
  exact get?_put_of_ne apart

theorem cwd_of_write (written : files.write path content = .ok changed) :
    changed.cwd = files.cwd := by
  obtain ⟨_, _, _, _, _, _, rfl⟩ := write_eq_ok written
  rfl

theorem keepsApart_of_write (written : files.write path content = .ok changed)
    (among : destination files.cwd path ∈ places) : KeepsApart places files changed := by
  refine ⟨fun place apart node here => ?_, cwd_of_write written⟩
  rw [get?_of_write written (ne_of_mem_of_not_mem among apart).symm, here]

/-- A file is taken away from its destination and from nowhere else. -/
theorem keepsApart_of_removeFile (removed : files.removeFile path = .ok changed)
    (among : destination files.cwd path ∈ places) : KeepsApart places files changed := by
  obtain ⟨_, _, leads, _, rfl⟩ := removeFile_eq_ok removed
  cases leads.eq_destination
  refine ⟨fun place apart node here => ?_, rfl⟩
  rw [get?_remove_of_ne (ne_of_mem_of_not_mem among apart).symm, here]

/-- What is read after a file has been written elsewhere could be read before. -/
theorem read_before_write {other : String} {kept : ByteArray}
    (written : files.write other content = .ok changed)
    (apart : destination files.cwd path ≠ destination files.cwd other)
    (held : changed.read path = .ok kept) : files.read path = .ok kept := by
  obtain ⟨_, origin, mode, aside, _, free, rfl⟩ := write_eq_ok written
  obtain ⟨route, location, _, leads, plain, here⟩ := leads_of_read held
  have keeps : (files.put origin (.file content mode)).KeepsDirectories files := by
    intro place directory
    rwa [get?_put_of_ne] at directory
    rintro rfl
    rw [get?_put_self (ne_root_of_free free)] at directory
    cases directory
  have before : files.Leads path route location := leads.kept keeps rfl
  have elsewhere : location ≠ origin := by
    rwa [before.eq_destination, aside.eq_destination]
  rw [get?_put_of_ne elsewhere] at here
  exact before.read_eq_ok plain here

end StepGraph.FileSystem
