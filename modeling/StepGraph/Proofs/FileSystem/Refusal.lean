import Mathlib.Data.List.Basic
import StepGraph.Proofs.FileSystem.Replace
import StepGraph.Proofs.Path

/-! What a replacement that fails leaves of a file. It may have made directories, and written
the new content under another name; but the directories are made where nothing was, and the
other name leads to another place. So the file is still read as it was. -/
namespace StepGraph.FileSystem

variable {files changed : FileSystem} {location other : Location} {path name : String}
  {route next : Route} {content : ByteArray}

/-- What the one tree holds, the other holds at the same place. -/
structure Grows (files changed : FileSystem) : Prop where
  nodes : ∀ location node, files.get? location = some node → changed.get? location = some node
  cwd : changed.cwd = files.cwd

theorem Grows.refl (files : FileSystem) : files.Grows files := ⟨fun _ _ => id, rfl⟩

theorem Grows.trans {last : FileSystem} (first : files.Grows changed)
    (second : changed.Grows last) : files.Grows last :=
  ⟨fun place node here => second.nodes place node (first.nodes place node here),
    second.cwd.trans first.cwd⟩

theorem Grows.keepsDirectories (grows : files.Grows changed) : files.KeepsDirectories changed :=
  fun place => grows.nodes place .directory

/-- A directory is made where its path leads, and nothing was. -/
theorem makeDirectory_eq_ok (made : files.makeDirectory path = .ok changed) :
    ∃ route location, files.Leads path route location ∧ files.get? location = none ∧
      changed = files.put location .directory := by
  obtain ⟨route, routed, made⟩ := bind_eq_ok.mp made
  obtain ⟨location, walked, made⟩ := bind_eq_ok.mp made
  split at made
  · cases made
  · rename_i vacant
    cases made
    rw [Bool.or_eq_true, not_or, Option.not_isSome_iff_eq_none] at vacant
    exact ⟨route, location, ⟨routed, walked⟩, vacant.2, rfl⟩

theorem grows_of_makeDirectory (made : files.makeDirectory path = .ok changed) :
    files.Grows changed := by
  obtain ⟨_, location, _, vacant, rfl⟩ := makeDirectory_eq_ok made
  refine ⟨fun place node here => ?_, rfl⟩
  rw [get?_put_of_ne, here]
  rintro rfl
  rw [vacant] at here
  cases here

/-- Making directories only adds to a tree. -/
theorem grows_of_makeDirectoriesWithin {disk : Disk} [disk.Lawful] {fuel : Nat}
    {result : Except IoError Unit}
    (done : disk.makeDirectoriesWithin fuel path files = (result, changed)) :
    files.Grows changed :=
  Disk.holds_of_makeDirectoriesWithin
    (fun _ _ _ grown made => grown.trans (grows_of_makeDirectory made)) (Grows.refl files) done

/-- A walk along names in two parts goes on where the first of them has led. -/
theorem walk_append (front behind : List String) (start : Location) :
    files.walk start (front ++ behind) =
      files.walk start front >>= fun place => files.walk place behind := by
  induction front generalizing start with
  | nil => rfl
  | cons first rest ih =>
    rw [List.cons_append, walk, walk]
    cases files.enter start first with
    | error => rfl
    | ok place => exact ih place

theorem walk_append_eq_ok {names : List String} {start : Location}
    (walked : files.walk start (names ++ [name]) = .ok location) :
    ∃ place, files.walk start names = .ok place ∧ files.enter place name = .ok location := by
  rw [walk_append] at walked
  obtain ⟨place, along, walked⟩ := bind_eq_ok.mp walked
  refine ⟨place, along, ?_⟩
  rw [walk] at walked
  split at walked
  · cases walked
  · rename_i entered
    cases walked
    exact entered

theorem walk_eq_ok {names : List String} {start : Location}
    (walked : files.walk start names = .ok location) : location = names.foldl follow start := by
  induction names generalizing start with
  | nil =>
    cases walked
    rfl
  | cons name rest ih =>
    unfold FileSystem.walk at walked
    split at walked
    · cases walked
    · rename_i entered
      rw [List.foldl_cons, ← (enter_eq_ok.mp entered).2.2]
      exact ih walked

/-- The names of a path. -/
def names (path : String) : List String :=
  ((Path.segments path.toList).filter (· ≠ [])).map String.ofList

/-- A route leads along the names of its path, from the root or from the directory of relative
paths. -/
theorem location_of_route (routed : files.route path = .ok route) :
    route.location files =
        files.walk (if Path.isAbsolute path then [] else files.cwd) (names path) ∧
      route.endsWithSlash = decide (path.toList.getLast? = some '/') := by
  unfold FileSystem.route at routed
  split at routed
  · cases routed
  split at routed
  · cases routed
  split at routed
  · cases routed
  cases routed
  have whole : (names path).dropLast ++ (names path).getLast?.toList = names path := by
    rcases List.eq_nil_or_concat' (names path) with none | ⟨above, last, some⟩
    · simp [none]
    · simp [some]
  exact ⟨congrArg (files.walk _) whole, rfl⟩

theorem Leads.walk (leads : files.Leads path route location) :
    files.walk (if Path.isAbsolute path then [] else files.cwd) (names path) = .ok location :=
  (location_of_route leads.routed).1.symm.trans leads.walked

/-- Behind a name that is followed by what means nothing, a path has no names but points. -/
theorem names_of_segments {front behind : List (List Char)}
    (parts : Path.segments path.toList = front ++ name.toList :: behind) (filled : name ≠ "")
    (nothing : ∀ segment ∈ behind, segment = [] ∨ segment = ['.']) :
    ∃ points, (∀ point ∈ points, point = ".") ∧
      names path = (front.filter (· ≠ [])).map String.ofList ++ name :: points := by
  have written : name.toList ≠ [] := fun none => filled (String.toList_inj.mp none)
  refine ⟨(behind.filter (· ≠ [])).map String.ofList, ?_, ?_⟩
  · intro point member
    obtain ⟨segment, kept, rfl⟩ := List.mem_map.mp member
    obtain ⟨member, present⟩ := List.mem_filter.mp kept
    rcases nothing segment member with rfl | rfl
    · cases present
    · rfl
  · rw [names, parts, List.filter_append, List.filter_cons_of_pos (by simpa using written),
      List.map_append, List.map_cons, String.ofList_toList]

/-- The place to which a path leads, with relative paths beginning at `cwd`. -/
def destination (cwd : Location) (path : String) : Location :=
  (names path).foldl follow (if Path.isAbsolute path then [] else cwd)

/-- A path leads to its destination or nowhere. -/
theorem Leads.eq_destination (leads : files.Leads path route location) :
    location = destination files.cwd path :=
  walk_eq_ok leads.walk

/-- Points lead nowhere else. -/
theorem foldl_follow_points {points : List String} (only : ∀ point ∈ points, point = ".")
    (place : Location) : points.foldl follow place = place := by
  induction points with
  | nil => rfl
  | cons point rest ih =>
    obtain ⟨rfl, others⟩ := List.forall_mem_cons.mp only
    rw [List.foldl_cons, follow, if_pos rfl, ih others]

/-- The destination of a path with a name at its end has that name, and lies where the names in
front of it lead. -/
theorem destination_of_segments {front behind : List (List Char)}
    (parts : Path.segments path.toList = front ++ name.toList :: behind)
    (named : Path.component? name.toList = some (.name name))
    (nothing : ∀ segment ∈ behind, segment = [] ∨ segment = ['.']) (cwd : Location) :
    destination cwd path = ((front.filter (· ≠ [])).map String.ofList).foldl follow
      (if Path.isAbsolute path then [] else cwd) ++ [name] := by
  obtain ⟨filled, notHere, notAbove⟩ := Path.component?_eq_name_iff.mp named
  obtain ⟨points, only, along⟩ := names_of_segments parts filled nothing
  rw [destination, along, List.foldl_append, List.foldl_cons, foldl_follow_points only, follow,
    if_neg notHere, if_neg notAbove]

/-- Paths with one destination end with one name. -/
theorem name_eq_of_destination {beside last : String} {cwd : Location}
    (ends : Path.EndsWith path name) (again : Path.EndsWith beside last)
    (same : destination cwd path = destination cwd beside) : name = last := by
  obtain ⟨_, _, parts, nothing⟩ := ends.split
  obtain ⟨_, _, others, nothingElse⟩ := again.split
  rw [destination_of_segments parts ends.named nothing,
    destination_of_segments others again.named nothingElse] at same
  exact List.singleton_inj.mp (List.append_inj_right' same rfl)

/-- Paths that lead to one place end with one name. -/
theorem Leads.name_eq {beside last : String} (leads : files.Leads path route location)
    (meets : files.Leads beside next location) (ends : Path.EndsWith path name)
    (again : Path.EndsWith beside last) : name = last :=
  name_eq_of_destination ends again (leads.eq_destination.symm.trans meets.eq_destination)

private theorem length_temporaryName (name : String) :
    (Disk.temporaryName name).length = name.length + 4 :=
  String.length_append name ".tmp"

theorem endsWith_temporary (ends : Path.EndsWith path name) :
    Path.EndsWith (Path.withFileName path (Disk.temporaryName name)) (Disk.temporaryName name) := by
  have plain : '/' ∉ (Disk.temporaryName name).toList := by
    simpa [Disk.temporaryName] using ends.not_mem
  have long : ∀ short : String, short.length < 4 → Disk.temporaryName name ≠ short := by
    rintro _ short rfl
    have length := length_temporaryName name
    omega
  refine Path.endsWith_withFileName path plain (Path.component?_eq_name_iff.mpr ?_)
  exact ⟨long "" (by decide), long "." (by decide), long ".." (by decide)⟩

/-- The new content is written aside: the name that is used for it leads to another place than
the file. -/
theorem destination_ne_temporary (named : Path.fileName? path = some name) (cwd : Location) :
    destination cwd path ≠
      destination cwd (Path.withFileName path (Disk.temporaryName name)) := by
  intro same
  have ends := Path.endsWith_of_fileName? named
  have names := name_eq_of_destination ends (endsWith_temporary ends) same
  have length := length_temporaryName name
  rw [← names] at length
  omega

theorem temporary_leads_aside (leads : files.Leads path route location)
    (named : Path.fileName? path = some name)
    (aside : files.Leads (Path.withFileName path (Disk.temporaryName name)) next other) :
    location ≠ other := by
  rw [leads.eq_destination, aside.eq_destination]
  exact destination_ne_temporary named files.cwd

/-- A file that can be read is at the end of a path without a slash behind it. -/
theorem leads_of_read (held : files.read path = .ok content) :
    ∃ route location mode, files.Leads path route location ∧ route.endsWithSlash = false ∧
      files.get? location = some (.file content mode) := by
  unfold read at held
  split at held
  · cases held
  · cases held
  · rename_i location _ mode located
    cases held
    obtain ⟨route, leads, here, ends⟩ := locate_eq_ok.mp located
    exact ⟨route, location, mode, leads, by simpa using ends, here⟩

/-- A file is read as before when the tree has grown. -/
theorem Grows.read (grows : files.Grows changed) (held : files.read path = .ok content) :
    changed.read path = .ok content := by
  obtain ⟨route, location, mode, leads, plain, here⟩ := leads_of_read held
  exact (leads.kept grows.keepsDirectories grows.cwd).read_eq_ok plain
    (grows.nodes location _ here)

/-- A file is read as before when its new content has been written aside. -/
theorem read_of_write_aside {update : ByteArray} (held : files.read path = .ok content)
    (named : Path.fileName? path = some name)
    (wrote : files.write (Path.withFileName path (Disk.temporaryName name)) update = .ok changed) :
    changed.read path = .ok content := by
  obtain ⟨route, location, mode, leads, plain, here⟩ := leads_of_read held
  obtain ⟨next, other, _, aside, _, vacant, rfl⟩ := write_eq_ok wrote
  have elsewhere := temporary_leads_aside leads named aside
  exact (leads.kept (keepsDirectories_put vacant) rfl).read_eq_ok plain
    ((get?_put_of_ne elsewhere).trans here)

/-- A file is read as before when its replacement has failed. -/
theorem read_of_refused {disk : Disk} [disk.Lawful] {failure : Failure} {update : ByteArray}
    (refused : disk.replace path update files = (.error failure, changed))
    (held : files.read path = .ok content) : changed.read path = .ok content := by
  obtain rfl | ⟨_, _, grown, _, made, written⟩ := Disk.replace_eq_error refused
  · exact held
  have before := (grows_of_makeDirectoriesWithin made).read held
  obtain rfl | ⟨_, _, named, wrote⟩ := written
  · exact before
  · exact read_of_write_aside before named wrote

end StepGraph.FileSystem
