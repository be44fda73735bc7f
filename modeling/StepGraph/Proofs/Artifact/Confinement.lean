import StepGraph.Artifact
import StepGraph.Proofs.FileSystem.Destination

/-! Artifacts lie in their sandbox. A path that is blank, absolute or has a name for the directory
above is refused, and no file is looked at for it. Any other path only leads down, name by name,
from the sandbox to which it is joined; so what is read under it is a file of the sandbox, and it
is told to the step under the path that the step has given. -/
namespace StepGraph

open FileSystem (destination follow names)

variable {files : FileSystem} {sandbox path : String} {artifact : Artifact} {fault : Fault}
  {failure : Failure}

/-- A path that no artifact may have: it is blank, absolute, or names the directory above. -/
def Artifact.Unfit (path : String) : Prop :=
  Text.isBlankText path ∨ Path.isAbsolute path ∨ .above ∈ Path.components path

instance : DecidablePred Artifact.Unfit := fun path =>
  inferInstanceAs (Decidable (Text.isBlankText path ∨ Path.isAbsolute path ∨ _))

/-- The components of a relative path are at fault for the directory above and for nothing else. -/
theorem findSome?_artifactFault? (relative : Path.isAbsolute path = false) :
    (Path.components path).findSome? (·.artifactFault? path) =
      if .above ∈ Path.components path then some (.escapingArtifactPath path) else none := by
  have noRoot : .root ∉ Path.components path := by
    rw [Path.mem_components_of_relative relative]
    rintro (⟨impossible, _⟩ | ⟨segment, _, root⟩)
    · cases impossible
    · exact Path.component?_ne_root segment root
  generalize Path.components path = components at noRoot ⊢
  induction components with
  | nil => rfl
  | cons component rest ih =>
    obtain ⟨notRoot, others⟩ := List.ne_and_not_mem_of_not_mem_cons noRoot
    cases component with
    | root => exact absurd rfl notRoot
    | above => simp [Path.Component.artifactFault?]
    | here => simpa [Path.Component.artifactFault?] using ih others
    | name name => simpa [Path.Component.artifactFault?] using ih others

/-- Which fault a path is refused for. -/
theorem artifactPathFault?_eq (path : String) : artifactPathFault? path =
    if Text.isBlankText path then some .emptyArtifactPath
    else if Path.isAbsolute path then some (.absoluteArtifactPath path)
    else if .above ∈ Path.components path then some (.escapingArtifactPath path)
    else none := by
  unfold artifactPathFault?
  split
  · rfl
  · split
    · rename_i absolute
      obtain ⟨behind, parts⟩ := Path.components_of_isAbsolute absolute
      rw [parts]
      rfl
    · rename_i relative
      exact findSome?_artifactFault? (by simpa using relative)

private theorem artifactPathFault?_eq_none_iff :
    artifactPathFault? path = none ↔ ¬Artifact.Unfit path := by
  rw [artifactPathFault?_eq, Artifact.Unfit]
  split
  · simp_all
  · split
    · simp_all
    · split <;> simp_all

theorem Artifact.isAbsolute_of_fit (fit : ¬Artifact.Unfit path) : Path.isAbsolute path = false := by
  cases absolute : Path.isAbsolute path with
  | false => rfl
  | true => exact absurd (Or.inr (Or.inl absolute)) fit

/-- An unfit path is refused, whatever files there are. -/
theorem readArtifact_of_unfit (unfit : Artifact.Unfit path) :
    ∃ fault, artifactPathFault? path = some fault ∧
      ∀ files : FileSystem, files.readArtifact sandbox path = .error (.single fault) := by
  have faulty : artifactPathFault? path ≠ none := fun none =>
    artifactPathFault?_eq_none_iff.mp none unfit
  obtain ⟨fault, found⟩ := Option.ne_none_iff_exists'.mp faulty
  refine ⟨fault, found, fun files => ?_⟩
  unfold FileSystem.readArtifact
  rw [found]

/-- An artifact is what its file holds, or it is missing. -/
theorem readArtifact_eq_ok : files.readArtifact sandbox path = .ok artifact ↔
    ¬Artifact.Unfit path ∧
      ((∃ content, files.read (Path.join sandbox path) = .ok content ∧
          artifact = ⟨path, some (Text.Utf8.lossy content.toList)⟩) ∨
        files.read (Path.join sandbox path) = .error .notFound ∧ artifact = ⟨path, none⟩) := by
  rw [← artifactPathFault?_eq_none_iff]
  unfold FileSystem.readArtifact
  cases artifactPathFault? path with
  | some fault => simp
  | none =>
    dsimp only
    split
    · rename_i content held
      simp [held, eq_comm]
    · rename_i missing
      simp [missing, eq_comm]
    · rename_i error present unread
      have other : error ≠ .notFound := present
      simp [unread, other]

/-- What goes wrong with a fit path goes wrong at its file, and the failure says so. -/
theorem readArtifact_eq_error (fit : ¬Artifact.Unfit path) :
    files.readArtifact sandbox path = .error failure ↔
      ∃ error, files.read (Path.join sandbox path) = .error error ∧ error ≠ .notFound ∧
        failure = .refused (.readArtifact (Path.join sandbox path)) error := by
  rw [← artifactPathFault?_eq_none_iff] at fit
  unfold FileSystem.readArtifact
  rw [fit]
  dsimp only
  split
  · rename_i content held
    simp [held]
  · rename_i missing
    simp [missing]
  · rename_i error present unread
    have other : error ≠ .notFound := present
    simp [unread, other, eq_comm]

/-- A walk along these names, from a place on, never leaves that place. -/
def FileSystem.StaysWithin (start : Location) (names : List String) : Prop :=
  ∀ beginning, beginning <+: names → start <+: beginning.foldl follow start

private theorem FileSystem.staysWithin_of_flat {names : List String} (flat : ".." ∉ names)
    (start : Location) : StaysWithin start names := by
  intro beginning front
  exact FileSystem.prefix_foldl_follow (fun member => flat (front.subset member)) start

/-- The names of a fit path do not lead up. -/
theorem Artifact.above_not_mem_names (fit : ¬Artifact.Unfit path) : ".." ∉ names path :=
  FileSystem.above_not_mem_names fun above => fit (Or.inr (Or.inr above))

/-- The path of an artifact is refused, alike for all files, exactly when it is blank, absolute or
names the directory above. Every other path is walked from the sandbox on, and the walk never
leaves it; what is read is a file of the sandbox; and the artifact keeps the path, so that its
entry in a context is called after it. -/
theorem artifacts_are_read_inside (sandbox path : String) :
    ((∃ fault, ∀ files : FileSystem,
        files.readArtifact sandbox path = .error (.single fault)) ↔ Artifact.Unfit path) ∧
    (¬Artifact.Unfit path →
      names (Path.join sandbox path) = names sandbox ++ names path ∧
        ∀ cwd, FileSystem.StaysWithin (destination cwd sandbox) (names path)) ∧
    ∀ (files : FileSystem) artifact, files.readArtifact sandbox path = .ok artifact →
      artifact.path = path ∧
        artifactLayer [artifact] =
          [⟨"artifact:" ++ path, Kind.artifact, artifact.content.getD ""⟩] ∧
        ∀ text, artifact.content = some text → ∃ place content mode,
          destination files.cwd sandbox <+: place ∧
            files.get? place = some (.file content mode) ∧
            text = Text.Utf8.lossy content.toList := by
  refine ⟨⟨?_, ?_⟩, ?_, ?_⟩
  · rintro ⟨fault, refused⟩
    refine Classical.byContradiction fun fit => ?_
    -- A file that cannot be read is named in the failure, which is then more than one fault.
    obtain ⟨error, _, _, impossible⟩ := (readArtifact_eq_error fit).mp (refused (.fresh []))
    cases impossible
  · intro unfit
    obtain ⟨fault, _, refused⟩ := readArtifact_of_unfit unfit
    exact ⟨fault, refused⟩
  · intro fit
    exact ⟨FileSystem.names_join (Artifact.isAbsolute_of_fit fit), fun cwd =>
      FileSystem.staysWithin_of_flat (Artifact.above_not_mem_names fit) (destination cwd sandbox)⟩
  · intro files artifact read
    obtain ⟨fit, ⟨content, held, rfl⟩ | ⟨_, rfl⟩⟩ := readArtifact_eq_ok.mp read
    · refine ⟨rfl, rfl, ?_⟩
      rintro text ⟨⟩
      obtain ⟨_, place, mode, leads, _, here⟩ := FileSystem.leads_of_read held
      refine ⟨place, content, mode, ?_, here, rfl⟩
      rw [leads.eq_destination, FileSystem.destination_join (Artifact.isAbsolute_of_fit fit)]
      exact FileSystem.prefix_foldl_follow (Artifact.above_not_mem_names fit) _
    · exact ⟨rfl, rfl, nofun⟩

/-- A sandbox with a file whose name begins with two points, and a file of that name beside it. -/
def dottedFiles : FileSystem :=
  ((FileSystem.fresh ["work", "box"]).put ["work", "box", "..notes"]
    (.file "inside".toUTF8 .plain)).put ["work", "..notes"] (.file "beside".toUTF8 .plain)

/-- Points that only begin a name, or stand for a directory itself, lead nowhere else; points that
lead up are refused even where they would come back. -/
theorem dotted_names_stay_inside :
    (names (Path.join "/work/box" ".//..notes") = ["work", "box", ".", "..notes"] ∧
      FileSystem.StaysWithin ["work", "box"] [".", "..notes"]) ∧
      artifactLayer [⟨".//..notes", some "inside"⟩] =
        [⟨"artifact:" ++ ".//..notes", Kind.artifact, "inside"⟩] ∧
      ∃ fault, ∀ files : FileSystem,
        files.readArtifact "/work/box" "notes/../..notes" = .error (.single fault) := by
  obtain ⟨_, inside, told⟩ := artifacts_are_read_inside "/work/box" ".//..notes"
  obtain ⟨refused, _⟩ := artifacts_are_read_inside "/work/box" "notes/../..notes"
  obtain ⟨along, stays⟩ := inside (by decide)
  have read : dottedFiles.readArtifact "/work/box" ".//..notes" =
      .ok ⟨".//..notes", some "inside"⟩ := by decide +kernel
  obtain ⟨_, entry, _⟩ := told dottedFiles _ read
  exact ⟨⟨along, stays ["work", "box"]⟩, entry, refused.mpr (by decide)⟩

end StepGraph
