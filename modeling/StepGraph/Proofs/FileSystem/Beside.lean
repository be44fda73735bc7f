import StepGraph.Proofs.FileSystem.Refusal

/-! What a replacement that succeeds leaves of the other files. It changes two places: the one to
which its path leads, and the one under whose name the new content has been written before. A
file that was at the first of them is replaced, under whatever path it is read, a file that was
at the second is gone, and every other file is read as before. -/
namespace StepGraph.FileSystem

variable {files changed : FileSystem} {path other name : String} {content kept : ByteArray}
  {location : Location}

/-- Both paths lead to the same place. -/
def Meet (files : FileSystem) (path other : String) : Prop :=
  ∃ route next location, files.Leads path route location ∧ files.Leads other next location

/-- What the other path leads to is changed when the file at the path is replaced. -/
def Displaces (files : FileSystem) (path other : String) : Prop :=
  files.Meet path other ∨ ∃ name, Path.fileName? path = some name ∧
    files.Meet (Path.withFileName path (Disk.temporaryName name)) other

/-- A replacement displaces nothing under names that are neither that of the replaced file nor the
one that is used meanwhile. -/
theorem not_displaces_of_names {last : String}
    (named : Path.fileName? path = some name) (again : Path.fileName? other = some last)
    (notItself : last ≠ name) (notMeanwhile : last ≠ Disk.temporaryName name) :
    ¬ files.Displaces path other := by
  have ends := Path.endsWith_of_fileName? named
  have beside := Path.endsWith_of_fileName? again
  rintro (⟨_, _, place, first, second⟩ | ⟨_, renamed, _, _, place, first, second⟩)
  · exact notItself (first.name_eq second ends beside).symm
  · cases named.symm.trans renamed
    exact notMeanwhile (first.name_eq second (endsWith_temporary ends) beside).symm

/-- A replacement moves the new content into its place, in a tree to which directories may have
been added; and it moves it there from another place. -/
theorem moves_of_replace {disk : Disk} [disk.Lawful]
    (replaced : disk.replace path content files = (.ok (), changed)) :
    ∃ grown name origin goal, files.Grows grown ∧ Path.fileName? path = some name ∧
      origin ≠ goal ∧ grown.Moves changed (Path.withFileName path (Disk.temporaryName name)) path
        content origin goal := by
  obtain ⟨_, grown, name, _, _, made, named, wrote, moved⟩ := Disk.replace_eq_ok replaced
  obtain ⟨origin, goal, moves⟩ := moves_of_renameFile wrote moved
  refine ⟨grown, name, origin, goal, grows_of_makeDirectoriesWithin made, named, ?_, moves⟩
  rintro rfl
  obtain ⟨_, aside⟩ := moves.source
  obtain ⟨_, _, leads, _⟩ := moves.target
  exact temporary_leads_aside leads named aside rfl

/-- What becomes of the file at another path when a file has been replaced. -/
structure Beside (changed : FileSystem) (path other : String) (content kept : ByteArray) :
    Prop where
  replaced : changed.Meet path other → changed.read other = .ok content
  gone : ∀ name, Path.fileName? path = some name →
    changed.Meet (Path.withFileName path (Disk.temporaryName name)) other →
      changed.read other = .error .notFound
  spared : ¬ changed.Displaces path other → changed.read other = .ok kept

theorem beside_of_replace (replaced : Disk.sound.replace path content files = (.ok (), changed))
    (held : files.read other = .ok kept) : changed.Beside path other content kept := by
  obtain ⟨grown, name, origin, goal, grows, named, apart, moves⟩ := moves_of_replace replaced
  obtain ⟨route, location, mode, before, plain, stood⟩ := leads_of_read held
  obtain ⟨_, source⟩ := moves.source
  obtain ⟨_, _, target, _, here⟩ := moves.target
  have leads : changed.Leads other route location :=
    (before.kept grows.keepsDirectories grows.cwd).kept moves.keeps moves.cwd
  constructor
  case replaced =>
    rintro ⟨_, _, place, first, second⟩
    cases leads.unique second
    cases target.unique first
    exact leads.read_eq_ok plain here
  case gone =>
    rintro _ renamed ⟨_, _, place, first, second⟩
    cases named.symm.trans renamed
    cases leads.unique second
    cases source.unique first
    exact leads.read_eq_notFound (moves.vacated apart)
  case spared =>
    intro undisplaced
    have notOrigin : location ≠ origin := by
      rintro rfl
      exact undisplaced (Or.inr ⟨name, named, _, _, _, source, leads⟩)
    have notGoal : location ≠ goal := by
      rintro rfl
      exact undisplaced (Or.inl ⟨_, _, _, target, leads⟩)
    have stands : changed.get? location = some (.file kept mode) := by
      rw [moves.others location notOrigin notGoal]
      exact grows.nodes location _ stood
    exact leads.read_eq_ok plain stands

end StepGraph.FileSystem
