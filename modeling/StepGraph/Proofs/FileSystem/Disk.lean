import StepGraph.FileSystem.Replace

/-! Disks that may fail. Any operation may, at any point and for any reason, but no operation claims
to have done what it has not done, and one that fails leaves the files alone. Only a write may fail
half-way: then its file holds something else than was to be written. Making the directories above a
file asks for them one by one, so that what each of them keeps is kept throughout. -/
namespace StepGraph.Disk

variable {disk : Disk} {files changed : FileSystem} {path source target : String}
  {content : ByteArray} {error : IoError} {nothing : Unit}

/-- What can be relied on. -/
class Lawful (disk : Disk) : Prop where
  made : ∀ {path files changed nothing},
    disk.makeDirectory path files = (.ok nothing, changed) →
      files.makeDirectory path = .ok changed
  unmade : ∀ {path files changed error},
    disk.makeDirectory path files = (.error error, changed) → changed = files
  written : ∀ {path content files changed nothing},
    disk.write path content files = (.ok nothing, changed) →
      files.write path content = .ok changed
  /-- What stands in the file may be the beginning of the content, or anything else. -/
  unwritten : ∀ {path content files changed error},
    disk.write path content files = (.error error, changed) →
      changed = files ∨ ∃ part, files.write path part = .ok changed
  moved : ∀ {source target files changed nothing},
    disk.renameFile source target files = (.ok nothing, changed) →
      files.renameFile source target = .ok changed
  unmoved : ∀ {source target files changed error},
    disk.renameFile source target files = (.error error, changed) → changed = files

theorem allOrNothing_eq_ok (operation : FileSystem → Except IoError FileSystem)
    (done : allOrNothing operation files = (.ok nothing, changed)) :
    operation files = .ok changed := by
  unfold allOrNothing at done
  split at done
  · cases done
    assumption
  · cases done

private theorem allOrNothing_eq_error (operation : FileSystem → Except IoError FileSystem)
    (done : allOrNothing operation files = (.error error, changed)) : changed = files := by
  unfold allOrNothing at done
  split at done
  · cases done
  · cases done
    rfl

instance lawful_sound : sound.Lawful where
  made done := allOrNothing_eq_ok (·.makeDirectory _) done
  unmade refused := allOrNothing_eq_error (·.makeDirectory _) refused
  written done := allOrNothing_eq_ok (·.write _ _) done
  unwritten refused := Or.inl (allOrNothing_eq_error (·.write _ _) refused)
  moved done := allOrNothing_eq_ok (·.renameFile _ _) done
  unmoved refused := allOrNothing_eq_error (·.renameFile _ _) refused

section Making
variable {Asked : String → Prop} {Holds : FileSystem → Prop} {result : Except IoError Unit}

private theorem holds_of_ensureDirectory [disk.Lawful]
    (kept : ∀ files changed, Holds files → files.makeDirectory path = .ok changed → Holds changed)
    (before : Holds files) (done : disk.ensureDirectory path files = (result, changed)) :
    Holds changed := by
  unfold ensureDirectory at done
  split at done
  · rename_i made
    cases done
    exact kept _ _ before (Lawful.made made)
  · rename_i refused
    have same := Lawful.unmade refused
    subst same
    split at done <;> cases done <;> exact before

/-- What each directory that is made keeps of a tree, making all of them keeps, also when it fails
on the way. Those that are asked for are the one at the path and the ones above it. -/
theorem holds_of_makeDirectoriesAsked [disk.Lawful]
    (upwards : ∀ path parent, Asked path → Path.parent? path = some parent → Asked parent)
    (kept : ∀ path files changed, Asked path → path ≠ "" → Holds files →
      files.makeDirectory path = .ok changed → Holds changed)
    {fuel : Nat} (asked : Asked path) (before : Holds files)
    (done : disk.makeDirectoriesWithin fuel path files = (result, changed)) : Holds changed := by
  induction fuel generalizing path files changed result with
  | zero =>
    cases done
    exact before
  | succ fuel ih =>
    unfold makeDirectoriesWithin at done
    split at done
    · cases done
      exact before
    rename_i filled
    have one := fun files changed => kept path files changed asked (by simpa using filled)
    split at done
    · rename_i missing
      have first := holds_of_ensureDirectory one before missing
      split at done
      · cases done
        exact first
      rename_i parent above
      have next := upwards path parent asked above
      split at done
      · rename_i failed
        cases done
        exact ih next first failed
      · rename_i grown
        exact holds_of_ensureDirectory one (ih next first grown) done
    · exact holds_of_ensureDirectory one before done

theorem holds_of_makeDirectoriesWithin [disk.Lawful]
    (kept : ∀ path files changed, Holds files → files.makeDirectory path = .ok changed →
      Holds changed)
    {fuel : Nat} (before : Holds files)
    (done : disk.makeDirectoriesWithin fuel path files = (result, changed)) : Holds changed :=
  holds_of_makeDirectoriesAsked (fun _ _ _ _ => trivial)
    (fun path files changed _ _ => kept path files changed) trivial before done

end Making

/-- A file that has been replaced: the directories above it were there or have been made, the new
content has been written under another name, and then moved. -/
theorem replace_eq_ok [disk.Lawful]
    (replaced : disk.replace path content files = (.ok nothing, changed)) :
    ∃ parent grown name written, Path.parent? path = some parent ∧
      disk.makeDirectories parent files = (.ok (), grown) ∧ Path.fileName? path = some name ∧
      grown.write (Path.withFileName path (temporaryName name)) content = .ok written ∧
      written.renameFile (Path.withFileName path (temporaryName name)) path = .ok changed := by
  unfold replace at replaced
  split at replaced
  · cases replaced
  rename_i parent above
  split at replaced
  · cases replaced
  rename_i grown made
  split at replaced
  · cases replaced
  rename_i name named
  simp only at replaced
  split at replaced
  · cases replaced
  rename_i written wrote
  split at replaced
  · cases replaced
  rename_i moved
  cases replaced
  exact ⟨parent, grown, name, written, above, made, named, Lawful.written wrote,
    Lawful.moved moved⟩

/-- A file that could not be replaced: some of the directories above it have been made, and then,
if at all, something has been written under the other name. -/
theorem replace_eq_error [disk.Lawful] {failure : Failure}
    (refused : disk.replace path content files = (.error failure, changed)) :
    changed = files ∨ ∃ parent result grown, Path.parent? path = some parent ∧
      disk.makeDirectories parent files = (result, grown) ∧
      (changed = grown ∨ ∃ name part, Path.fileName? path = some name ∧
        grown.write (Path.withFileName path (temporaryName name)) part = .ok changed) := by
  unfold replace at refused
  split at refused
  · cases refused
    exact Or.inl rfl
  rename_i parent above
  split at refused
  · rename_i made
    cases refused
    exact Or.inr ⟨parent, _, _, above, made, Or.inl rfl⟩
  rename_i grown made
  split at refused
  · cases refused
    exact Or.inr ⟨parent, _, _, above, made, Or.inl rfl⟩
  rename_i name named
  simp only at refused
  refine Or.inr ⟨parent, _, grown, above, made, ?_⟩
  split at refused
  · rename_i unwritten
    cases refused
    exact (Lawful.unwritten unwritten).imp_right fun ⟨part, wrote⟩ => ⟨name, part, named, wrote⟩
  rename_i written wrote
  split at refused
  · rename_i unmoved
    cases refused
    obtain rfl := Lawful.unmoved unmoved
    exact Or.inr ⟨name, content, named, Lawful.written wrote⟩
  · cases refused

end StepGraph.Disk
