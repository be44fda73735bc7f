import StepGraph.Engine.Run
import StepGraph.Proofs.FileSystem.Tree
import StepGraph.RunState.Store

/-! Replacing a file is all or nothing, wherever the disk fails. Directories are made in front of
the file, and the new content is written aside, so that up to the last operation nothing has
happened to the file itself; and the last operation moves the whole content. Only the directories
remain of a replacement that has failed on the way, and what was written aside. They are above the
file, unless its path leads up again: then a directory that has been made may be all that the path
still needed to lead somewhere else. -/
namespace StepGraph.FileSystem

variable {disk : Disk} {files changed last : FileSystem} {places : List Location} {cwd : Location}
  {path parent : String} {content : ByteArray}

/-- Apart from these places, all that has changed is that directories are where nothing was. -/
structure AltersOnly (places : List Location) (files changed : FileSystem) : Prop where
  nodes : ∀ place ∉ places, changed.get? place = files.get? place ∨
    files.get? place = none ∧ changed.get? place = some .directory
  cwd : changed.cwd = files.cwd

private theorem AltersOnly.refl (places : List Location) (files : FileSystem) :
    AltersOnly places files files :=
  ⟨fun _ _ => Or.inl rfl, rfl⟩

private theorem AltersOnly.trans (first : AltersOnly places files changed)
    (second : AltersOnly places changed last) : AltersOnly places files last := by
  refine ⟨fun place apart => ?_, second.cwd.trans first.cwd⟩
  rcases second.nodes place apart with same | ⟨vacant, directory⟩
  · rw [same]
    exact first.nodes place apart
  · rcases first.nodes place apart with same | ⟨_, occupied⟩
    · exact Or.inr ⟨same ▸ vacant, directory⟩
    · rw [vacant] at occupied
      cases occupied

/-- What is the same elsewhere adds to what has been altered only the places themselves. -/
theorem AltersOnly.of_same (alters : AltersOnly [] files changed)
    (same : ∀ place ∉ places, last.get? place = changed.get? place)
    (cwd : last.cwd = changed.cwd) : AltersOnly places files last := by
  refine ⟨fun place apart => ?_, cwd.trans alters.cwd⟩
  rw [same place apart]
  exact alters.nodes place List.not_mem_nil

private theorem altersOnly_of_makeDirectory (made : files.makeDirectory path = .ok changed) :
    AltersOnly places files changed := by
  obtain ⟨_, location, _, vacant, rfl⟩ := makeDirectory_eq_ok made
  refine ⟨fun place _ => ?_, rfl⟩
  by_cases here : place = location
  · subst here
    have below : place ≠ [] := by
      rintro rfl
      cases vacant
    exact Or.inr ⟨vacant, get?_put_self below⟩
  · exact Or.inl (get?_put_of_ne here)

private theorem altersOnly_of_makeDirectories [disk.Lawful] {result : Except IoError Unit}
    (made : disk.makeDirectories path files = (result, changed)) :
    AltersOnly places files changed :=
  Disk.holds_of_makeDirectoriesWithin
    (fun _ _ _ alters made => alters.trans (altersOnly_of_makeDirectory made))
    (AltersOnly.refl places files) made

/-- Where a path above leads and nothing is, what is at the end of the path is further down. -/
theorem length_lt_of_isAbove {above : String} {route : Route} {location : Location}
    (anchored : files.Anchored path) (isAbove : IsAbove path above) (filled : above ≠ "")
    (grows : files.Grows changed) (leads : changed.Leads above route location)
    (vacant : changed.get? location = none) :
    location.length < (destination files.cwd path).length := by
  obtain ⟨start, rest, whole, named⟩ := isAbove.resolve_left filled
  obtain ⟨front, behind, place, parts, flat, along⟩ := anchored
  have here := leads.eq_destination
  rw [grows.cwd, destination, start] at here
  suffices down : ".." ∉ rest by
    rw [destination, whole, List.foldl_append, ← here]
    exact length_lt_foldl_follow down named location
  rcases List.append_eq_append_iff.mp (whole.symm.trans parts) with
    ⟨between, front_eq, rfl⟩ | ⟨between, _, rfl⟩
  · cases between with
    | nil => exact flat
    | cons name between =>
      -- The path only leads back up through directories, but here is none.
      rw [front_eq, List.append_cons, walk_append] at along
      obtain ⟨_, before, _⟩ := bind_eq_ok.mp along
      obtain ⟨inside, before, entered⟩ := walk_append_eq_ok before
      have directory := grows.nodes inside _ (enter_eq_ok.mp entered).1
      rw [walk_eq_ok before, ← here, vacant] at directory
      cases directory
  · exact fun up => flat (List.mem_append_right between up)

/-- The tree has grown, but not as far down as this. -/
structure SameFrom (bound : Nat) (files changed : FileSystem) : Prop where
  nodes : ∀ place, bound ≤ place.length → changed.get? place = files.get? place
  grows : files.Grows changed

private theorem SameFrom.makeDirectory {above : String} (anchored : files.Anchored path)
    (same : SameFrom (destination files.cwd path).length files changed)
    (isAbove : IsAbove path above) (filled : above ≠ "")
    (made : changed.makeDirectory above = .ok last) :
    SameFrom (destination files.cwd path).length files last := by
  have grows := same.grows.trans (grows_of_makeDirectory made)
  obtain ⟨_, location, leads, vacant, rfl⟩ := makeDirectory_eq_ok made
  have shorter := length_lt_of_isAbove anchored isAbove filled same.grows leads vacant
  refine ⟨fun place deep => ?_, grows⟩
  rw [get?_put_of_ne, same.nodes place deep]
  rintro rfl
  omega

/-- Directories that are made for a file are not as far down as the file. -/
theorem sameFrom_of_makeDirectories [disk.Lawful] {result : Except IoError Unit}
    (anchored : files.Anchored path) (above : Path.parent? path = some parent)
    (made : disk.makeDirectories parent files = (result, changed)) :
    SameFrom (destination files.cwd path).length files changed :=
  Disk.holds_of_makeDirectoriesAsked (fun _ _ isAbove => isAbove.parent?)
    (fun _ _ _ isAbove filled same => same.makeDirectory anchored isAbove filled)
    (isAbove_parent? above) ⟨fun _ _ => rfl, .refl files⟩ made

/-- The path under which new content is written before it is moved. -/
def temporary? (path : String) : Option String :=
  (Path.fileName? path).map fun name => Path.withFileName path (Disk.temporaryName name)

/-- The place of that path, if there is one. -/
def aside (cwd : Location) (path : String) : List Location :=
  ((temporary? path).map (destination cwd)).toList

private theorem destination_not_mem_aside (cwd : Location) (path : String) :
    destination cwd path ∉ aside cwd path := by
  intro member
  simp only [aside, temporary?, Option.map_map, Option.mem_toList, Option.map_eq_some_iff] at member
  obtain ⟨name, named, same⟩ := member
  exact destination_ne_temporary named cwd same.symm

/-- A file, or its absence, after a replacement that has failed. -/
structure Untouched (files changed : FileSystem) (path : String) : Prop where
  kept : ∀ content, files.read path = .ok content → changed.read path = .ok content
  absent : files.Anchored path → files.exists? path = false → changed.exists? path = false
  /-- What is read afterwards was there before, even if no path led to it. -/
  earlier : ∀ content, changed.read path = .ok content →
    ∃ mode, files.get? (destination files.cwd path) = some (.file content mode)
  others : AltersOnly (aside files.cwd path) files changed

/-- Directories are made, none of them as far down as the file, and then nothing but the sibling
changes. -/
theorem changes_of_refused [disk.Lawful] {failure : Failure}
    (refused : disk.replace path content files = (.error failure, changed)) :
    ∃ grown, AltersOnly [] files grown ∧
      (files.Anchored path → SameFrom (destination files.cwd path).length files grown) ∧
      (∀ place ∉ aside files.cwd path, changed.get? place = grown.get? place) ∧
      changed.cwd = grown.cwd := by
  obtain rfl | ⟨parent, _, grown, above, made, written⟩ := Disk.replace_eq_error refused
  · exact ⟨_, .refl [] _, fun _ => ⟨fun _ _ => rfl, .refl _⟩, fun _ _ => rfl, rfl⟩
  have alters : AltersOnly [] files grown := altersOnly_of_makeDirectories made
  refine ⟨grown, alters, fun anchored => sameFrom_of_makeDirectories anchored above made, ?_⟩
  obtain rfl | ⟨name, part, named, wrote⟩ := written
  · exact ⟨fun _ _ => rfl, rfl⟩
  refine ⟨fun place apart => get?_of_write wrote ?_, cwd_of_write wrote⟩
  rintro rfl
  exact apart (by simp [aside, temporary?, named, alters.cwd])

private theorem untouched_of_refused [disk.Lawful] {failure : Failure} (tree : files.IsTree)
    (refused : disk.replace path content files = (.error failure, changed)) :
    Untouched files changed path := by
  obtain ⟨grown, alters, above, same, cwd⟩ := changes_of_refused refused
  have others := alters.of_same same cwd
  have elsewhere := destination_not_mem_aside files.cwd path
  constructor
  case kept => exact fun content held => read_of_refused refused held
  case absent =>
    intro anchored missing
    have here : changed.get? (destination files.cwd path) =
        files.get? (destination files.cwd path) := by
      rw [same _ elsewhere, (above anchored).nodes _ (Nat.le_refl _)]
    refine Bool.eq_false_iff.mpr fun found => ?_
    rw [tree.exists_of_same anchored others.cwd here found] at missing
    cases missing
  case earlier =>
    intro content held
    obtain ⟨_, location, mode, leads, _, here⟩ := leads_of_read held
    have goal := leads.eq_destination
    rw [others.cwd] at goal
    subst goal
    rcases others.nodes _ elsewhere with same | ⟨_, directory⟩
    · exact ⟨mode, same ▸ here⟩
    · rw [directory] at here
      cases here
  case others => exact others

/-- A file after its replacement. -/
structure Replaced (files changed : FileSystem) (path : String) (content : ByteArray) : Prop where
  holds : changed.read path = .ok content
  gone : ∃ temporary, temporary? path = some temporary ∧ changed.exists? temporary = false
  others : AltersOnly (destination files.cwd path :: aside files.cwd path) files changed

private theorem replaced_of_replace [disk.Lawful]
    (replaced : disk.replace path content files = (.ok (), changed)) :
    Replaced files changed path content := by
  obtain ⟨_, grown, name, _, _, made, named, wrote, moved⟩ := Disk.replace_eq_ok replaced
  obtain ⟨origin, goal, moves⟩ := moves_of_renameFile wrote moved
  have alters : AltersOnly [] files grown := altersOnly_of_makeDirectories made
  obtain ⟨_, source⟩ := moves.source
  obtain ⟨_, _, target, _⟩ := moves.target
  have sibling : temporary? path =
      some (Path.withFileName path (Disk.temporaryName name)) := by
    rw [temporary?, named]
    rfl
  constructor
  case holds => exact moves.read
  case gone =>
    have apart := temporary_leads_aside target named source
    exact ⟨_, sibling, source.not_exists (moves.vacated apart.symm)⟩
  case others =>
    refine alters.of_same (fun place apart => ?_) moves.cwd
    have origin := source.eq_destination
    have goal := target.eq_destination
    rw [moves.cwd, alters.cwd] at origin goal
    obtain ⟨notGoal, notAside⟩ := List.ne_and_not_mem_of_not_mem_cons apart
    refine moves.others place ?_ (goal ▸ notGoal)
    rintro rfl
    exact notAside (by simp [aside, sibling, origin])

/-- What has become of a file that was to be replaced. -/
def Settled (files : FileSystem) (path : String) (content : ByteArray) :
    Except Failure Unit × FileSystem → Prop
  | (.ok _, changed) => Replaced files changed path content
  | (.error _, changed) => Untouched files changed path

private theorem settled_of_replace [disk.Lawful] (tree : files.IsTree) :
    Settled files path content (disk.replace path content files) := by
  rcases done : disk.replace path content files with ⟨failure | _, changed⟩
  · exact untouched_of_refused tree done
  · exact replaced_of_replace done

/-- A document is read at the path as a whole, or what was there before. -/
def HoldsWhole (files changed : FileSystem) (path document : String) : Prop :=
  ∀ found, changed.read path = .ok found → found = document.toUTF8 ∨
    ∃ mode, files.get? (destination files.cwd path) = some (.file found mode)

private theorem Settled.holdsWhole {document : String} {done : Except Failure Unit × FileSystem}
    (settled : Settled files path document.toUTF8 done) :
    HoldsWhole files done.2 path document := by
  intro found held
  obtain ⟨failure | _, changed⟩ := done
  · exact Or.inr (settled.earlier found held)
  · cases held.symm.trans settled.holds
    exact Or.inl rfl

/-- In a tree, on whatever disk, a file that could not be replaced is left as it was, and so is its
absence if the path is anchored; a file that has been replaced holds the new content, and nothing
is left beside it. No other file changes. So there is never a part of a document at its path, be
it the state of a run or a snapshot. -/
theorem files_are_replaced_at_one_stroke (disk : Disk) [disk.Lawful] (tree : files.IsTree)
    (path : String) :
    (∀ content, Settled files path content (disk.replace path content files)) ∧
    (∀ document : String,
      HoldsWhole files (disk.replace path document.toUTF8 files).2 path document) ∧
    ∀ paused,
      (∀ state : RunState,
        HoldsWhole files ((state.store path).run ⟨files, paused⟩).2.files path state.fileText) ∧
      ∀ snapshot : Snapshot,
        HoldsWhole files (snapshot.keep [path] ⟨files, paused⟩).files path snapshot.fileText := by
  refine ⟨fun content => settled_of_replace tree,
    fun document => (settled_of_replace tree).holdsWhole, fun paused => ⟨?_, ?_⟩⟩
  · intro state
    have settled : Settled files path state.fileText.toUTF8 (Disk.sound.replace path _ files) :=
      settled_of_replace tree
    exact settled.holdsWhole
  · intro snapshot
    have settled : Settled files path snapshot.fileText.toUTF8
        (Disk.sound.replace path _ files) := settled_of_replace tree
    exact settled.holdsWhole

/-- A disk with room for so many bytes in a file. Of more than that it takes the beginning. -/
def crampedDisk (room : Nat) : Disk where
  makeDirectory := Disk.sound.makeDirectory
  write path content files :=
    if content.size ≤ room then Disk.sound.write path content files
    else
      match files.write path (content.extract 0 room) with
      | .ok changed => (.error .resourceBusy, changed)
      | .error error => (.error error, files)
  renameFile := Disk.sound.renameFile

instance lawful_crampedDisk (room : Nat) : (crampedDisk room).Lawful where
  made := Disk.lawful_sound.made
  unmade := Disk.lawful_sound.unmade
  written wrote := by
    unfold crampedDisk at wrote
    simp only at wrote
    split at wrote
    · exact Disk.lawful_sound.written wrote
    · split at wrote <;> cases wrote
  unwritten refused := by
    unfold crampedDisk at refused
    simp only at refused
    split at refused
    · exact Disk.lawful_sound.unwritten refused
    · split at refused
      · rename_i part
        cases refused
        exact Or.inr ⟨_, part⟩
      · cases refused
        exact Or.inl rfl
  moved := Disk.lawful_sound.moved
  unmoved := Disk.lawful_sound.unmoved

/-- A directory with one file in it. -/
def keptFiles : FileSystem :=
  (fresh ["work"]).put ["work", "run.json"] (.file "old".toUTF8 .plain)

/-- There is room for a short content, which takes the place of the old one. A longer one leaves the
old one as it was, and another file absent, although a directory has been made for it. -/
theorem cramped_disks_keep_files :
    (∃ changed, (crampedDisk 4).replace "run.json" "new".toUTF8 keptFiles = (.ok (), changed) ∧
      changed.read "run.json" = .ok "new".toUTF8 ∧ changed.exists? "run.json.tmp" = false) ∧
    (∃ failure changed,
      (crampedDisk 4).replace "run.json" "longer".toUTF8 keptFiles = (.error failure, changed) ∧
        changed.read "run.json" = .ok "old".toUTF8 ∧
        changed.read "run.json.tmp" = .ok "long".toUTF8) ∧
    ∃ failure changed,
      (crampedDisk 4).replace "out/run.json" "longer".toUTF8 keptFiles = (.error failure, changed) ∧
        changed.exists? "out/run.json" = false ∧ changed.isDirectory "out" = true := by
  have tree : keptFiles.IsTree := (isTree_fresh ["work"]).put nofun rfl
  obtain ⟨settled, _⟩ := files_are_replaced_at_one_stroke (crampedDisk 4) tree "run.json"
  obtain ⟨below, _⟩ := files_are_replaced_at_one_stroke (crampedDisk 4) tree "out/run.json"
  refine ⟨?short, ?long, ?missing⟩
  case short =>
    obtain ⟨changed, done⟩ : ∃ changed,
        (crampedDisk 4).replace "run.json" "new".toUTF8 keptFiles = (.ok (), changed) := ⟨_, rfl⟩
    have replaced := settled "new".toUTF8
    rw [done] at replaced
    obtain ⟨_, sibling, gone⟩ := replaced.gone
    cases sibling
    exact ⟨changed, done, replaced.holds, gone⟩
  case long =>
    have refused : (crampedDisk 4).replace "run.json" "longer".toUTF8 keptFiles =
        (.error (.refused (.writeTemporary "run.json.tmp") .resourceBusy),
          keptFiles.put ["work", "run.json.tmp"] (.file "long".toUTF8 .plain)) := rfl
    have held : keptFiles.read "run.json" = .ok "old".toUTF8 := rfl
    have untouched := settled "longer".toUTF8
    rw [refused] at untouched
    exact ⟨_, _, refused, untouched.kept _ held, rfl⟩
  case missing =>
    have refused : (crampedDisk 4).replace "out/run.json" "longer".toUTF8 keptFiles =
        (.error (.refused (.writeTemporary "out/run.json.tmp") .resourceBusy),
          (keptFiles.put ["work", "out"] .directory).put ["work", "out", "run.json.tmp"]
            (.file "long".toUTF8 .plain)) := rfl
    have flat : .above ∉ Path.components "out/run.json" := by decide
    have untouched := below "longer".toUTF8
    rw [refused] at untouched
    exact ⟨_, _, refused, untouched.absent (anchored_of_not_mem flat) rfl, rfl⟩

/-- A file, and a directory where new content for it would be written. -/
def blockedFiles : FileSystem :=
  ((fresh ["work"]).put ["work", "run"] (.file "old".toUTF8 .plain)).put ["work", "run.tmp"]
    .directory

/-- A path that leads up again from a directory that is missing leads nowhere. The directory is made
for a replacement that fails, and then the path leads to a file. -/
theorem made_directories_open_paths :
    blockedFiles.IsTree ∧ blockedFiles.exists? "out/../run" = false ∧
      ∃ failure changed,
        Disk.sound.replace "out/../run" "new".toUTF8 blockedFiles = (.error failure, changed) ∧
          changed.exists? "out/../run" = true ∧ changed.read "out/../run" = .ok "old".toUTF8 := by
  have refused : Disk.sound.replace "out/../run" "new".toUTF8 blockedFiles =
      (.error (.refused (.writeTemporary "out/../run.tmp") .isADirectory),
        blockedFiles.put ["work", "out"] .directory) := rfl
  have held : ((fresh ["work"]).put ["work", "run"] (.file "old".toUTF8 .plain)).IsTree :=
    (isTree_fresh ["work"]).put nofun rfl
  have tree : blockedFiles.IsTree := held.put nofun rfl
  exact ⟨tree, rfl, _, _, refused, rfl, rfl⟩

end StepGraph.FileSystem
