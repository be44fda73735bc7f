import StepGraph.Proofs.FileSystem.Disk
import StepGraph.Proofs.Manifest.Lookups
import StepGraph.Workspace

/-! What a replaced file holds. Walks through a tree of files lead to the same places
as long as no directory goes away; writing a file and moving it leave all directories
where they are. So the path that was replaced leads to the new content. -/
namespace StepGraph.FileSystem

variable {files changed : FileSystem} {location other : Location} {node : FileNode}

private theorem find?_assign_self (nodes : List (Location × FileNode)) :
    (put.assign location node nodes).find? (·.1 = location) = some (location, node) := by
  induction nodes with
  | nil => simp [put.assign]
  | cons entry rest ih =>
    unfold put.assign
    split
    · simp
    · rename_i differs
      rw [List.find?_cons_of_neg (by simpa using differs), ih]

private theorem find?_assign_of_ne (nodes : List (Location × FileNode))
    (differs : other ≠ location) :
    (put.assign location node nodes).find? (·.1 = other) = nodes.find? (·.1 = other) := by
  induction nodes with
  | nil => simp [put.assign, differs.symm]
  | cons entry rest ih =>
    unfold put.assign
    split
    · rename_i same
      simp [same, differs.symm]
    · simp only [List.find?_cons, ih]

/-- A location below the root holds what has been put there. -/
theorem get?_put_self (below : location ≠ []) :
    (files.put location node).get? location = some node := by
  rw [get?, if_neg below, put, find?_assign_self]
  rfl

theorem get?_put_of_ne (differs : other ≠ location) :
    (files.put location node).get? other = files.get? other := by
  unfold get? put
  rw [find?_assign_of_ne _ differs]

/-- Nothing is left where a node below the root has been taken away. -/
theorem get?_remove_self (below : location ≠ []) :
    (files.remove location).get? location = none := by
  rw [get?, if_neg below, remove, List.find?_filter]
  simp

theorem get?_remove_of_ne (differs : other ≠ location) :
    (files.remove location).get? other = files.get? other := by
  unfold get? remove
  congr 2
  rw [List.find?_filter]
  congr 1
  funext entry
  by_cases same : entry.1 = other
  · simp [same, differs]
  · simp [same]

/-- Every directory of the one tree is a directory of the other. -/
def KeepsDirectories (files changed : FileSystem) : Prop :=
  ∀ location, files.get? location = some .directory → changed.get? location = some .directory

theorem keepsDirectories_put (free : files.get? location ≠ some .directory) :
    files.KeepsDirectories (files.put location node) := by
  intro other directory
  rw [get?_put_of_ne, directory]
  rintro rfl
  exact free directory

theorem keepsDirectories_remove (free : files.get? location ≠ some .directory) :
    files.KeepsDirectories (files.remove location) := by
  intro other directory
  rw [get?_remove_of_ne, directory]
  rintro rfl
  exact free directory

/-- The place to which a name leads from a place. -/
def follow (place : Location) (name : String) : Location :=
  if name = "." then place
  else if name = ".." then place.dropLast
  else place ++ [name]

/-- A directory can be entered by every name that is not too long, which leads to its place. -/
theorem enter_eq_ok {name : String} : files.enter location name = .ok other ↔
    files.get? location = some .directory ∧ name.utf8ByteSize ≤ nameLimit ∧
      other = follow location name := by
  unfold enter
  cases files.get? location with
  | none => simp
  | some node =>
    cases node with
    | file => simp
    | directory =>
      simp only [true_and]
      by_cases here : name = "."
      · subst here
        have short : (".").utf8ByteSize ≤ nameLimit := by decide
        simp [follow, short, eq_comm]
      by_cases above : name = ".."
      · subst above
        have short : ("..").utf8ByteSize ≤ nameLimit := by decide
        simp [follow, short, eq_comm]
      rw [follow, if_neg here, if_neg above, if_neg here, if_neg above]
      split
      · rename_i long
        simp [Nat.not_le.mpr long]
      · rename_i short
        simp [Nat.not_lt.mp short, eq_comm]

private theorem enter_of_keepsDirectories (keeps : files.KeepsDirectories changed) {name : String}
    (entered : files.enter location name = .ok other) :
    changed.enter location name = .ok other := by
  obtain ⟨directory, short, leads⟩ := enter_eq_ok.mp entered
  exact enter_eq_ok.mpr ⟨keeps location directory, short, leads⟩

/-- A walk that succeeds still leads to the same location. -/
theorem walk_of_keepsDirectories (keeps : files.KeepsDirectories changed) {names : List String}
    {start goal : Location} (walked : files.walk start names = .ok goal) :
    changed.walk start names = .ok goal := by
  induction names generalizing start with
  | nil => exact walked
  | cons name rest ih =>
    unfold walk at walked ⊢
    cases entered : files.enter start name with
    | error error => rw [entered] at walked; cases walked
    | ok location =>
      rw [entered] at walked
      rw [enter_of_keepsDirectories keeps entered]
      exact ih walked

theorem route_congr (same : changed.cwd = files.cwd) (path : String) :
    changed.route path = files.route path := by
  unfold route
  rw [same]

/-- A path leads to a place in a tree: there is a route, and the walk gets there. -/
structure Leads (files : FileSystem) (path : String) (route : Route) (location : Location) :
    Prop where
  routed : files.route path = .ok route
  walked : route.location files = .ok location

theorem Leads.kept {path : String} {route : Route} (leads : files.Leads path route location)
    (keeps : files.KeepsDirectories changed) (same : changed.cwd = files.cwd) :
    changed.Leads path route location :=
  ⟨by rw [route_congr same, leads.routed], walk_of_keepsDirectories keeps leads.walked⟩

theorem Leads.unique {path : String} {route next : Route} (leads : files.Leads path route location)
    (again : files.Leads path next other) : other = location := by
  have same := leads.routed.symm.trans again.routed
  cases same
  have ends := leads.walked.symm.trans again.walked
  cases ends
  rfl

/-- What is found at a path is what stands at the place to which it leads. Only a directory is found
behind a slash. -/
theorem locate_eq_ok {path : String} : files.locate path = .ok (location, node) ↔
    ∃ route, files.Leads path route location ∧ files.get? location = some node ∧
      (node = .directory ∨ route.endsWithSlash = false) := by
  constructor
  · intro located
    unfold locate at located
    obtain ⟨route, routed, located⟩ := bind_eq_ok.mp located
    obtain ⟨place, walked, found⟩ := bind_eq_ok.mp located
    split at found
    · cases found
    · rename_i content mode here
      split at found
      · cases found
      · rename_i plain
        cases found
        exact ⟨route, ⟨routed, walked⟩, here, Or.inr (by simpa using plain)⟩
    · rename_i here
      cases found
      exact ⟨route, ⟨routed, walked⟩, here, Or.inl rfl⟩
  · rintro ⟨route, leads, here, ends⟩
    cases node with
    | directory => simp [locate, leads.routed, leads.walked, here, bind, Except.bind]
    | file =>
      have plain : route.endsWithSlash = false := by simpa using ends
      simp [locate, leads.routed, leads.walked, here, plain, bind, Except.bind]

/-- Where nothing stands, nothing is found. -/
theorem Leads.locate_eq_notFound {path : String} {route : Route}
    (leads : files.Leads path route location) (nothing : files.get? location = none) :
    files.locate path = .error .notFound := by
  simp [locate, leads.routed, leads.walked, nothing, bind, Except.bind]

/-- A file at the end of a route without a slash behind it is read. -/
theorem Leads.read_eq_ok {path : String} {route : Route} {content : ByteArray} {mode : FileMode}
    (leads : files.Leads path route location) (plain : route.endsWithSlash = false)
    (here : files.get? location = some (.file content mode)) : files.read path = .ok content := by
  rw [read, locate_eq_ok.mpr ⟨route, leads, here, Or.inr plain⟩]

/-- Where nothing stands, nothing is read. -/
theorem Leads.read_eq_notFound {path : String} {route : Route}
    (leads : files.Leads path route location) (nothing : files.get? location = none) :
    files.read path = .error .notFound := by
  rw [read, leads.locate_eq_notFound nothing]

theorem Leads.not_exists {path : String} {route : Route} (leads : files.Leads path route location)
    (nothing : files.get? location = none) : files.exists? path = false := by
  rw [exists?, leads.locate_eq_notFound nothing]
  rfl

theorem exists?_eq_true_iff {path : String} : files.exists? path = true ↔
    ∃ location node, files.locate path = .ok (location, node) := by
  unfold exists?
  rcases files.locate path with error | ⟨location, node⟩ <;> simp [Except.toBool]

/-- A text is read from the file that holds its bytes. -/
theorem readText_of_read {path text : String}
    (held : files.read path = .ok text.toUTF8) : files.readText path = .ok text := by
  rw [readText, held]
  simp only [bind, Except.bind, Text.Utf8.strict?_toUTF8]

/-- A written file stands at the place to which its path leads, where no directory was. -/
theorem write_eq_ok {path : String} {content : ByteArray}
    (written : files.write path content = .ok changed) :
    ∃ route location mode, files.Leads path route location ∧ route.endsWithSlash = false ∧
      files.get? location ≠ some .directory ∧
      changed = files.put location (.file content mode) := by
  unfold write at written
  obtain ⟨route, routed, written⟩ := bind_eq_ok.mp written
  obtain ⟨location, walked, written⟩ := bind_eq_ok.mp written
  split at written
  · cases written
  rename_i plain
  split at written
  · cases written
  · rename_i free
    cases written
    exact ⟨route, location, _, ⟨routed, walked⟩, by simpa using plain, free, rfl⟩

/-- A file that is taken away stood where its path leads. -/
theorem removeFile_eq_ok {path : String} (removed : files.removeFile path = .ok changed) :
    ∃ route location, files.Leads path route location ∧
      files.get? location ≠ some .directory ∧ changed = files.remove location := by
  obtain ⟨⟨location, node⟩, located, removed⟩ := bind_eq_ok.mp removed
  obtain ⟨route, leads, here, _⟩ := locate_eq_ok.mp located
  cases node with
  | directory => cases removed
  | file =>
    cases removed
    exact ⟨route, location, leads, by rw [here]; nofun, rfl⟩

/-- A moved file stands at the place to which its new path leads. -/
theorem renameFile_eq_ok {source target : String}
    (moved : files.renameFile source target = .ok changed) :
    ∃ route location goal content mode, files.locate source = .ok (location, .file content mode) ∧
      files.Leads target route goal ∧ route.endsWithSlash = false ∧
      files.get? goal ≠ some .directory ∧
      changed = (files.remove location).put goal (.file content mode) := by
  unfold renameFile at moved
  obtain ⟨route, routed, moved⟩ := bind_eq_ok.mp moved
  obtain ⟨⟨location, node⟩, located, moved⟩ := bind_eq_ok.mp moved
  obtain ⟨goal, walked, moved⟩ := bind_eq_ok.mp moved
  cases node with
  | directory => cases moved
  | file content mode =>
    simp only at moved
    split at moved
    · cases moved
    split at moved
    · cases moved
    rename_i plain
    split at moved
    · cases moved
    · rename_i free
      cases moved
      exact ⟨route, location, goal, content, mode, located, ⟨routed, walked⟩, by simpa using plain,
        free, rfl⟩

/-- No directory is at the root's place but the root. -/
theorem ne_root_of_free (free : files.get? location ≠ some .directory) : location ≠ [] := by
  rintro rfl
  exact free rfl

/-- A written file holds the new content. -/
theorem read_of_write {path : String} {content : ByteArray}
    (written : files.write path content = .ok changed) : changed.read path = .ok content := by
  obtain ⟨route, location, mode, leads, plain, free, rfl⟩ := write_eq_ok written
  exact (leads.kept (keepsDirectories_put free) rfl).read_eq_ok plain
    (get?_put_self (ne_root_of_free free))

/-- What a tree is after a file has been written under one path, at `origin`, and then moved to
another, to `goal`. -/
structure Moves (files changed : FileSystem) (source target : String) (content : ByteArray)
    (origin goal : Location) : Prop where
  source : ∃ route, changed.Leads source route origin
  target : ∃ route mode, changed.Leads target route goal ∧ route.endsWithSlash = false ∧
    changed.get? goal = some (.file content mode)
  vacated : origin ≠ goal → changed.get? origin = none
  others : ∀ place, place ≠ origin → place ≠ goal → changed.get? place = files.get? place
  keeps : files.KeepsDirectories changed
  cwd : changed.cwd = files.cwd

theorem moves_of_renameFile {source target : String} {content : ByteArray} {written : FileSystem}
    (wrote : files.write source content = .ok written)
    (moved : written.renameFile source target = .ok changed) :
    ∃ origin goal, files.Moves changed source target content origin goal := by
  obtain ⟨_, location, mode, leads, _, free, rfl⟩ := write_eq_ok wrote
  obtain ⟨route, origin, goal, found, foundMode, located, ends, plain, vacant, rfl⟩ :=
    renameFile_eq_ok moved
  obtain ⟨_, again, here, _⟩ := locate_eq_ok.mp located
  -- The file that is moved is the one that has just been written.
  have kept : (files.put location (.file content mode)).Leads source _ location :=
    leads.kept (keepsDirectories_put free) rfl
  have same : origin = location := kept.unique again
  subst same
  have stands : (files.put origin (.file content mode)).get? origin =
      some (.file content mode) := get?_put_self (ne_root_of_free free)
  have present := stands.symm.trans here
  cases present
  have keeps : (files.put origin (.file content mode)).KeepsDirectories
      (((files.put origin (.file content mode)).remove origin).put goal (.file content mode)) := by
    intro place directory
    have removed := keepsDirectories_remove (by rw [stands]; nofun) place directory
    rw [get?_put_of_ne, removed]
    rintro rfl
    exact vacant directory
  refine ⟨origin, goal, ?_⟩
  constructor
  case source => exact ⟨_, kept.kept keeps rfl⟩
  case target =>
    exact ⟨route, mode, ends.kept keeps rfl, plain, get?_put_self (ne_root_of_free vacant)⟩
  case vacated =>
    intro differs
    rw [get?_put_of_ne differs, get?_remove_self (ne_root_of_free free)]
  case others =>
    intro place notOrigin notGoal
    rw [get?_put_of_ne notGoal, get?_remove_of_ne notOrigin, get?_put_of_ne notOrigin]
  case keeps => exact fun place directory => keeps place (keepsDirectories_put free place directory)
  case cwd => rfl

/-- What has been moved is read at the path to which it was moved. -/
theorem Moves.read {source target : String} {content : ByteArray} {origin goal : Location}
    (moves : files.Moves changed source target content origin goal) :
    changed.read target = .ok content := by
  obtain ⟨route, mode, leads, plain, here⟩ := moves.target
  exact leads.read_eq_ok plain here

/-- A replaced file holds the new content. -/
theorem read_of_replace {disk : Disk} [disk.Lawful] {path : String} {content : ByteArray}
    (replaced : disk.replace path content files = (.ok (), changed)) :
    changed.read path = .ok content := by
  obtain ⟨_, _, _, _, _, _, _, wrote, moved⟩ := Disk.replace_eq_ok replaced
  obtain ⟨_, _, moves⟩ := moves_of_renameFile wrote moved
  exact moves.read

/-- A task that replaces a file does so in the files of its workspace. -/
theorem replace_of_run {path text : String} {workspace after : Workspace}
    {outcome : Except Failure Unit}
    (ran : (Workspace.Task.replace path text).run workspace = (outcome, after)) :
    Disk.sound.replace path text.toUTF8 workspace.files = (outcome, after.files) := by
  simp only [Workspace.Task.run, Workspace.Task.replace, Prod.mk.injEq] at ran
  obtain ⟨rfl, rfl⟩ := ran
  rfl

end StepGraph.FileSystem
