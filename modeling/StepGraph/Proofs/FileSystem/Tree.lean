import Mathlib.Data.List.Induction
import StepGraph.Proofs.FileSystem.Destination

/-! Everything stands in a directory. This holds of a fresh tree and of whatever becomes of it
when files are written or taken away and directories are made. In such a tree a path without a
name for the directory above fails to find something only if nothing is at its destination: each
name on the way to what stands there is that of a directory. -/
namespace StepGraph.FileSystem

variable {files changed : FileSystem} {location place start : Location} {node : FileNode}
  {path name : String} {route : Route} {content : ByteArray}

/-- Every node stands in a directory. -/
def IsTree (files : FileSystem) : Prop :=
  ∀ entry ∈ files.nodes, files.get? entry.1.dropLast = some .directory

instance : DecidablePred IsTree := fun files =>
  inferInstanceAs (Decidable (∀ entry ∈ files.nodes, files.get? entry.1.dropLast = _))

private theorem IsTree.above (tree : files.IsTree) (here : files.get? location = some node) :
    files.get? location.dropLast = some .directory := by
  unfold get? at here
  split at here
  · rename_i root
    subst root
    rfl
  · obtain ⟨entry, found, _⟩ := Option.map_eq_some_iff.mp here
    have same : entry.1 = location := by simpa using List.find?_some found
    exact same ▸ tree entry (List.mem_of_find?_eq_some found)

/-- A fresh tree has every directory on the way to the one at which relative paths begin. -/
theorem isTree_fresh (cwd : Location) : (fresh cwd).IsTree := by
  intro entry member
  obtain ⟨depth, within, rfl⟩ := List.mem_map.mp member
  have above : (cwd.take (depth + 1)).dropLast = cwd.take depth := by
    rw [List.dropLast_eq_take, List.take_take]
    congr 1
    have bound := List.mem_range.mp within
    rw [List.length_take]
    omega
  show (fresh cwd).get? (cwd.take (depth + 1)).dropLast = some .directory
  rw [above]
  cases depth with
  | zero => rfl
  | succ depth =>
    unfold get?
    split
    · rfl
    have stands : (cwd.take (depth + 1), FileNode.directory) ∈ (fresh cwd).nodes :=
      List.mem_map.mpr ⟨depth, List.mem_range.mpr
        (Nat.lt_of_succ_lt (List.mem_range.mp within)), rfl⟩
    cases found : (fresh cwd).nodes.find? (·.1 = cwd.take (depth + 1)) with
    | none => simpa using List.find?_eq_none.mp found _ stands
    | some entry =>
      obtain ⟨_, _, rfl⟩ := List.mem_map.mp (List.mem_of_find?_eq_some found)
      rfl

private theorem mem_assign {entry : Location × FileNode} {nodes : List (Location × FileNode)}
    (member : entry ∈ put.assign location node nodes) :
    entry = (location, node) ∨ entry ∈ nodes := by
  induction nodes with
  | nil => exact Or.inl (List.mem_singleton.mp member)
  | cons head rest ih =>
    unfold put.assign at member
    split at member
    · exact (List.mem_cons.mp member).imp_right (List.mem_cons_of_mem _)
    · rcases List.mem_cons.mp member with rfl | behind
      · exact Or.inr List.mem_cons_self
      · exact (ih behind).imp_right (List.mem_cons_of_mem _)

/-- A node is put into a directory, in place of nothing or of a file. -/
theorem IsTree.put (tree : files.IsTree) (free : files.get? location ≠ some .directory)
    (above : files.get? location.dropLast = some .directory) :
    (files.put location node).IsTree := by
  intro entry member
  have directory : files.get? entry.1.dropLast = some .directory := by
    rcases mem_assign member with rfl | before
    · exact above
    · exact tree entry before
  exact keepsDirectories_put free _ directory

/-- What is no directory has nothing in it that would be left behind. -/
theorem IsTree.remove (tree : files.IsTree) (free : files.get? location ≠ some .directory) :
    (files.remove location).IsTree := by
  intro entry member
  exact keepsDirectories_remove free _ (tree entry (List.mem_of_mem_filter member))

/-- A relative path has a name. -/
theorem names_ne_nil (relative : Path.isAbsolute path = false) (filled : path ≠ "") :
    names path ≠ [] := by
  have written : path.toList ≠ [] := fun none => filled (String.toList_inj.mp none)
  obtain ⟨c, rest, whole⟩ := List.exists_cons_of_ne_nil written
  rw [Path.isAbsolute_eq, whole] at relative
  have plain : c ≠ '/' := by simpa using relative
  obtain ⟨first, others, _, parts⟩ := Path.segments_cons plain rest
  rw [names, whole, parts]
  simp

private theorem filled_of_route (routed : files.route path = .ok route) : path ≠ "" := by
  rintro rfl
  cases routed

/-- Where a path leads and no directory is, one is above. -/
theorem Leads.above_of_isTree (leads : files.Leads path route location) (tree : files.IsTree)
    (free : files.get? location ≠ some .directory) :
    files.get? location.dropLast = some .directory := by
  have walked := leads.walk
  rcases List.eq_nil_or_concat' (names path) with none | ⟨above, last, whole⟩
  · rw [none] at walked
    cases absolute : Path.isAbsolute path with
    | false => exact absurd none (names_ne_nil absolute (filled_of_route leads.routed))
    | true =>
      rw [absolute] at walked
      cases walked
      exact absurd rfl free
  · rw [whole] at walked
    obtain ⟨place, _, entered⟩ := walk_append_eq_ok walked
    obtain ⟨directory, _, followed⟩ := enter_eq_ok.mp entered
    unfold follow at followed
    split at followed
    · exact absurd (followed ▸ directory) free
    split at followed
    · exact absurd (followed ▸ tree.above directory) free
    · rwa [followed, List.dropLast_concat]

private theorem isTree_of_makeDirectory (tree : files.IsTree)
    (made : files.makeDirectory path = .ok changed) : changed.IsTree := by
  obtain ⟨_, location, leads, vacant, rfl⟩ := makeDirectory_eq_ok made
  have free : files.get? location ≠ some .directory := by
    rw [vacant]
    nofun
  exact tree.put free (leads.above_of_isTree tree free)

theorem isTree_of_makeDirectories {disk : Disk} [disk.Lawful] {result : Except IoError Unit}
    (tree : files.IsTree) (done : disk.makeDirectories path files = (result, changed)) :
    changed.IsTree :=
  Disk.holds_of_makeDirectoriesWithin (fun _ _ _ => isTree_of_makeDirectory) tree done

theorem isTree_of_write (tree : files.IsTree) (written : files.write path content = .ok changed) :
    changed.IsTree := by
  obtain ⟨_, _, _, leads, _, free, rfl⟩ := write_eq_ok written
  exact tree.put free (leads.above_of_isTree tree free)

theorem isTree_of_removeFile (tree : files.IsTree)
    (removed : files.removeFile path = .ok changed) : changed.IsTree := by
  obtain ⟨_, _, _, free, rfl⟩ := removeFile_eq_ok removed
  exact tree.remove free

theorem not_exists_of_removeFile (removed : files.removeFile path = .ok changed) :
    changed.exists? path = false := by
  obtain ⟨route, location, leads, free, rfl⟩ := removeFile_eq_ok removed
  have again := leads.kept (keepsDirectories_remove free) rfl
  exact again.not_exists (get?_remove_self (ne_root_of_free free))

/-- From a directory a single name is walked to its place. -/
theorem walk_singleton (directory : files.get? place = some .directory)
    (short : name.utf8ByteSize ≤ nameLimit) :
    files.walk place [name] = .ok (follow place name) := by
  rw [walk, enter_eq_ok.mpr ⟨directory, short, rfl⟩]
  rfl

/-- A directory is found along names that lead down to it. -/
theorem IsTree.walk_to_directory (tree : files.IsTree) {names : List String}
    (flat : ".." ∉ names) (short : ∀ name ∈ names, name.utf8ByteSize ≤ nameLimit)
    (here : files.get? (names.foldl follow start) = some .directory) :
    files.walk start names = .ok (names.foldl follow start) := by
  induction names using List.reverseRecOn with
  | nil => rfl
  | append_singleton above last ih =>
    rw [List.foldl_append, List.foldl_cons, List.foldl_nil] at here ⊢
    have notAbove : last ≠ ".." := fun same => flat (by simp [same])
    have place : files.get? (above.foldl follow start) = some .directory := by
      by_cases point : last = "."
      · rwa [follow, if_pos point] at here
      · rw [follow, if_neg point, if_neg notAbove] at here
        simpa using tree.above here
    have along := ih (fun member => flat (List.mem_append_left _ member))
      (fun name member => short name (List.mem_append_left _ member)) place
    rw [walk_append, along]
    exact walk_singleton place (short last (by simp))

private theorem short_of_walk {names : List String}
    (walked : files.walk start names = .ok location) :
    ∀ name ∈ names, name.utf8ByteSize ≤ nameLimit := by
  induction names generalizing start with
  | nil => exact List.forall_mem_nil _
  | cons first rest ih =>
    unfold walk at walked
    split at walked
    · cases walked
    rename_i next entered
    exact List.forall_mem_cons.mpr ⟨(enter_eq_ok.mp entered).2.1, ih walked⟩

/-- In a tree, a walk down along names and then along one more leads to what stands there. -/
theorem IsTree.walk_to_name (tree : files.IsTree) {above : List String} (flat : ".." ∉ above)
    (notHere : name ≠ ".") (notAbove : name ≠ "..")
    (short : ∀ other ∈ above ++ [name], other.utf8ByteSize ≤ nameLimit)
    (here : files.get? (above.foldl follow start ++ [name]) = some node) :
    files.walk start (above ++ [name]) = .ok (above.foldl follow start ++ [name]) := by
  have directory : files.get? (above.foldl follow start) = some .directory := by
    simpa using tree.above here
  have down := tree.walk_to_directory flat
    (fun other among => short other (List.mem_append_left _ among)) directory
  have last := walk_singleton directory (short name (by simp))
  rw [follow, if_neg notHere, if_neg notAbove] at last
  rw [walk_append, down]
  exact last

/-- A walk that leads down to something in one tree leads there in any other tree that holds the
same at that place. -/
theorem IsTree.walk_of_same (tree : files.IsTree) {names : List String} (flat : ".." ∉ names)
    (walked : changed.walk start names = .ok location)
    (here : changed.get? location = some node) (there : files.get? location = some node) :
    files.walk start names = .ok location := by
  have short := short_of_walk walked
  by_cases directory : node = .directory
  · subst directory
    rw [walk_eq_ok walked] at there ⊢
    exact tree.walk_to_directory flat short there
  -- What is no directory is at the end of a name that leads down.
  rcases List.eq_nil_or_concat' names with rfl | ⟨above, last, rfl⟩
  · exact walked
  obtain ⟨place, before, entered⟩ := walk_append_eq_ok walked
  obtain ⟨inside, _, ends⟩ := enter_eq_ok.mp entered
  have notAbove : last ≠ ".." := fun up => flat (by simp [up])
  have notHere : last ≠ "." := by
    rintro rfl
    rw [ends, follow, if_pos rfl, inside] at here
    exact directory (Option.some.inj here).symm
  rw [follow, if_neg notHere, if_neg notAbove, walk_eq_ok before] at ends
  rw [ends] at there ⊢
  exact tree.walk_to_name (fun up => flat (List.mem_append_left _ up)) notHere notAbove short there

/-- The path leads somewhere as far as its last name for the directory above. What comes behind
that only leads down. -/
def Anchored (files : FileSystem) (path : String) : Prop :=
  ∃ front behind place, names path = front ++ behind ∧ ".." ∉ behind ∧
    files.walk (if Path.isAbsolute path then [] else files.cwd) front = .ok place

/-- A path that does not lead up at all starts at a place from which it only leads down. -/
theorem anchored_of_not_mem (flat : .above ∉ Path.components path) : files.Anchored path :=
  ⟨[], names path, _, rfl, above_not_mem_names flat, rfl⟩

/-- A path that is anchored and finds something in another tree finds it in this one, if this tree
holds the same at that place. -/
theorem IsTree.exists_of_same (tree : files.IsTree) (anchored : files.Anchored path)
    (same : changed.cwd = files.cwd)
    (here : changed.get? (destination files.cwd path) = files.get? (destination files.cwd path))
    (found : changed.exists? path = true) : files.exists? path = true := by
  obtain ⟨location, node, located⟩ := exists?_eq_true_iff.mp found
  obtain ⟨route, leads, stands, ends⟩ := locate_eq_ok.mp located
  obtain ⟨front, behind, place, parts, flat, along⟩ := anchored
  have goal := leads.eq_destination
  have walked := leads.walk
  rw [same] at goal walked
  rw [← goal, stands] at here
  rw [parts, walk_append] at walked
  obtain ⟨start, before, walked⟩ := bind_eq_ok.mp walked
  cases (walk_eq_ok before).trans (walk_eq_ok along).symm
  have down := tree.walk_of_same flat walked stands here.symm
  have routed : files.route path = .ok route := (route_congr same path).symm.trans leads.routed
  have again : files.Leads path route location := by
    refine ⟨routed, (location_of_route routed).1.trans ?_⟩
    rw [parts, walk_append, along]
    exact down
  exact exists?_eq_true_iff.mpr
    ⟨location, node, locate_eq_ok.mpr ⟨route, again, here.symm, ends⟩⟩

/-- In a tree, what stands at the end of names is found under a path with these names, if they lead
down from a place to which the names in front of them lead. -/
theorem IsTree.exists_of_occupied (tree : files.IsTree) (routed : files.route path = .ok route)
    (plain : path.toList.getLast? ≠ some '/') {front behind : List String}
    (whole : names path = front ++ (behind ++ [name]))
    (along : files.walk (if Path.isAbsolute path then [] else files.cwd) front = .ok place)
    (flat : ".." ∉ behind) (notHere : name ≠ ".") (notAbove : name ≠ "..")
    (short : ∀ name ∈ names path, name.utf8ByteSize ≤ nameLimit)
    (occupied : files.get? (behind.foldl follow place ++ [name]) ≠ none) :
    files.exists? path = true := by
  obtain ⟨node, here⟩ := Option.ne_none_iff_exists'.mp occupied
  have down := tree.walk_to_name flat notHere notAbove
    (fun other among => short other (whole ▸ List.mem_append_right front among)) here
  obtain ⟨located, slash⟩ := location_of_route routed
  have walked : route.location files = .ok (behind.foldl follow place ++ [name]) := by
    rw [located, whole, walk_append, along]
    exact down
  have ends : route.endsWithSlash = false := by simpa [slash] using plain
  exact exists?_eq_true_iff.mpr
    ⟨_, node, locate_eq_ok.mpr ⟨route, ⟨routed, walked⟩, here, Or.inr ends⟩⟩

/-- A path under which a file is read in any tree is taken in every tree: it has a route, no slash
at its end and no name that is too long. -/
theorem taken_of_read {others : FileSystem} (held : others.read path = .ok content) :
    (∃ route, files.route path = .ok route) ∧ path.toList.getLast? ≠ some '/' ∧
      ∀ name ∈ names path, name.utf8ByteSize ≤ nameLimit := by
  obtain ⟨route, _, _, leads, plain, _⟩ := leads_of_read held
  refine ⟨?_, ?_, short_of_walk leads.walk⟩
  · have routed := leads.routed
    unfold FileSystem.route at routed ⊢
    split at routed
    · cases routed
    rename_i noNul
    split at routed
    · cases routed
    rename_i filled
    split at routed
    · cases routed
    rename_i short
    rw [if_neg noNul, if_neg filled, if_neg short]
    exact ⟨_, rfl⟩
  · rw [(location_of_route leads.routed).2] at plain
    exact of_decide_eq_false plain

/-- In a tree nothing is at the destination of a path under which nothing is found, if the path is
joined to that of a directory and leads down from there. -/
theorem IsTree.vacant_of_join (tree : files.IsTree) {base below : String}
    (reaches : files.walk (if Path.isAbsolute base then [] else files.cwd) (names base) = .ok place)
    (flat : ".." ∉ names below) {front : List String} (ends : names below = front ++ [name])
    (notHere : name ≠ ".") {others : FileSystem}
    (held : others.read (Path.join base below) = .ok content)
    (absent : files.exists? (Path.join base below) = false) :
    files.get? (destination files.cwd (Path.join base below)) = none := by
  obtain ⟨⟨route, routed⟩, plain, short⟩ := taken_of_read held
  have down : ".." ∉ front := fun member => flat (by simp [ends, member])
  have notAbove : name ≠ ".." := fun same => flat (by simp [ends, same])
  have along (place : Location) :
      (names below).foldl follow place = front.foldl follow place ++ [name] := by
    rw [ends, List.foldl_append, List.foldl_cons, List.foldl_nil, follow, if_neg notHere,
      if_neg notAbove]
  refine Classical.byContradiction fun occupied => ?_
  have found : files.exists? (Path.join base below) = true := by
    cases absolute : Path.isAbsolute below with
    | false =>
      have whole : names (Path.join base below) = names base ++ (front ++ [name]) :=
        (names_join absolute).trans (congrArg _ ends)
      rw [destination_join absolute, along, destination, ← walk_eq_ok reaches] at occupied
      refine tree.exists_of_occupied routed plain whole ?_ down notHere notAbove short occupied
      rwa [Path.isAbsolute_join absolute]
    | true =>
      have alone : Path.join base below = below := if_pos absolute
      have whole : names (Path.join base below) = [] ++ (front ++ [name]) := by
        rw [alone, ends, List.nil_append]
      rw [destination_join_of_isAbsolute absolute, along] at occupied
      refine tree.exists_of_occupied routed plain whole ?_ down notHere notAbove short occupied
      rw [alone, if_pos absolute]
      rfl
  rw [absent] at found
  cases found

end StepGraph.FileSystem
