import StepGraph.Proofs.FileSystem.Destination

/-! Where a path does not lead. A walk stops at the first of its names that cannot be entered:
nothing stands where that name is needed, or a file does. The two differ in the error alone, but
the error is all that is known of a walk that has stopped; so a path at which nothing is may be
reported as missing, or as one that goes on behind a file. -/
namespace StepGraph.FileSystem

variable {files : FileSystem} {path name : String} {start place : Location} {error : IoError}
  {route : Route}

/-- No character of the path is NUL, and its names are of a length that directories take. -/
structure Legal (path : String) : Prop where
  noNul : '\x00' ∉ path.toList
  names : ∀ name ∈ names path, name.utf8ByteSize ≤ nameLimit

private theorem exists_route (files : FileSystem) (legal : Legal path) (filled : path ≠ "")
    (short : path.utf8ByteSize < pathLimit) : ∃ route, files.route path = .ok route := by
  unfold FileSystem.route
  rw [if_neg (by simpa using legal.noNul), if_neg (by simpa using filled),
    if_neg (Nat.not_le.mpr short)]
  exact ⟨_, rfl⟩

private theorem locate_of_long (noNul : '\x00' ∉ path.toList)
    (long : pathLimit ≤ path.utf8ByteSize) :
    files.locate path = .error .invalidFilename := by
  have filled : path ≠ "" := by
    rintro rfl
    exact absurd long (by decide)
  have unrouted : files.route path = .error .invalidFilename := by
    rw [FileSystem.route, if_neg (by simpa using noNul), if_neg (by simpa using filled),
      if_pos long]
  rw [locate, unrouted]
  rfl

/-- A file stands at this place. -/
def HasFile (files : FileSystem) (place : Location) : Prop :=
  ∃ content mode, files.get? place = some (.file content mode)

/-- A name that is not too long cannot be entered where nothing is, or a file. -/
theorem enter_eq_error (short : name.utf8ByteSize ≤ nameLimit)
    (stopped : files.enter place name = .error error) :
    error = .notFound ∨ (error = .notADirectory ∧ files.HasFile place) := by
  unfold enter at stopped
  split at stopped
  · cases stopped
    exact Or.inl rfl
  · rename_i content mode here
    cases stopped
    exact Or.inr ⟨rfl, content, mode, here⟩
  · split at stopped
    · cases stopped
    split at stopped
    · cases stopped
    rw [if_neg (Nat.not_lt.mpr short)] at stopped
    cases stopped

private theorem enter_of_hasFile (file : files.HasFile place) (name : String) :
    files.enter place name = .error .notADirectory := by
  obtain ⟨_, _, here⟩ := file
  rw [enter, here]

/-- A walk that stops, stops at one of its names. -/
theorem walk_eq_error {names : List String} (stopped : files.walk start names = .error error) :
    ∃ front name behind place, names = front ++ name :: behind ∧
      files.walk start front = .ok place ∧ files.enter place name = .error error := by
  induction names generalizing start with
  | nil => cases stopped
  | cons first rest ih =>
    rw [walk] at stopped
    split at stopped
    · rename_i refused
      cases stopped
      exact ⟨[], first, rest, start, rfl, rfl, refused⟩
    · rename_i next entered
      obtain ⟨front, name, behind, place, rfl, along, refused⟩ := ih stopped
      refine ⟨first :: front, name, behind, place, rfl, ?_, refused⟩
      rw [walk, entered]
      exact along

/-- A file stands where the path needs a directory: the path goes on behind it, with more names
or with a slash. -/
def Barred (files : FileSystem) (path : String) : Prop :=
  ∃ front behind place, names path = front ++ behind ∧
    (behind ≠ [] ∨ path.toList.getLast? = some '/') ∧
    files.walk (if Path.isAbsolute path then [] else files.cwd) front = .ok place ∧
    files.HasFile place

private theorem Barred.locate (barred : files.Barred path) (routed : files.route path = .ok route) :
    files.locate path = .error .notADirectory := by
  obtain ⟨front, behind, place, whole, further, along, file⟩ := barred
  obtain ⟨located, slash⟩ := location_of_route routed
  rw [whole, walk_append, along] at located
  rw [FileSystem.locate, routed]
  cases behind with
  | nil =>
    obtain ⟨content, mode, here⟩ := file
    have ends : path.toList.getLast? = some '/' := further.resolve_left (absurd rfl)
    rw [ends] at slash
    have there : route.location files = .ok place := located
    simp [bind, Except.bind, there, here, slash]
  | cons name rest =>
    have stopped : route.location files = .error .notADirectory := by
      rw [located]
      show files.walk place (name :: rest) = _
      rw [walk, enter_of_hasFile file]
    simp [bind, Except.bind, stopped]

/-- A path that is taken and leads nowhere is missing, or barred by a file. -/
theorem locate_eq_error (legal : Legal path) (routed : files.route path = .ok route)
    (lost : files.locate path = .error error) :
    error = .notFound ∨ (error = .notADirectory ∧ files.Barred path) := by
  obtain ⟨located, slash⟩ := location_of_route routed
  rw [FileSystem.locate, routed] at lost
  rcases bind_eq_error.mp lost with impossible | ⟨_, same, lost⟩
  · cases impossible
  cases same
  rcases bind_eq_error.mp lost with stopped | ⟨place, there, lost⟩
  · rw [located] at stopped
    obtain ⟨front, name, behind, place, whole, along, refused⟩ := walk_eq_error stopped
    have short := legal.names name (by simp [whole])
    rcases enter_eq_error short refused with missing | ⟨barred, file⟩
    · exact Or.inl missing
    · have further := List.cons_ne_nil name behind
      exact Or.inr ⟨barred, front, name :: behind, place, whole, Or.inl further, along, file⟩
  · split at lost
    · cases lost
      exact Or.inl rfl
    · rename_i content mode here
      split at lost
      · rename_i ends
        cases lost
        refine Or.inr ⟨rfl, names path, [], place, (List.append_nil _).symm, Or.inr ?_,
          located.symm.trans there, content, mode, here⟩
        rw [slash] at ends
        exact of_decide_eq_true ends
      · cases lost
    · cases lost

theorem exists?_eq_false_iff : files.exists? path = false ↔
    ∃ error, files.locate path = .error error := by
  unfold exists?
  cases files.locate path <;> simp [Except.toBool]

/-- What is not there cannot be read, for the reason for which it is not found. -/
theorem read_of_locate (lost : files.locate path = .error error) :
    files.read path = .error error := by
  rw [FileSystem.read, lost]

theorem exists_of_read {content : ByteArray} (held : files.read path = .ok content) :
    files.exists? path = true := by
  cases there : files.exists? path with
  | true => rfl
  | false =>
    obtain ⟨error, lost⟩ := exists?_eq_false_iff.mp there
    rw [read_of_locate lost] at held
    cases held

/-- What cannot be read is not found, or is a directory. -/
theorem read_eq_error (unread : files.read path = .error error) :
    files.locate path = .error error ∨
      (error = .isADirectory ∧ files.isDirectory path = true) := by
  unfold FileSystem.read at unread
  split at unread
  · rename_i lost
    cases unread
    exact Or.inl lost
  · rename_i here
    cases unread
    refine Or.inr ⟨rfl, ?_⟩
    rw [isDirectory, here]
  · cases unread

/-- Why a path is in the way of reading, though something may well be missing at it: it is longer
than paths may be, a file bars it, or it leads to a directory. -/
inductive Obstructs (files : FileSystem) (path : String) : IoError → Prop
  | long (long : pathLimit ≤ path.utf8ByteSize) : Obstructs files path .invalidFilename
  | barred (short : path.utf8ByteSize < pathLimit) (barred : files.Barred path) :
      Obstructs files path .notADirectory
  | directory (directory : files.isDirectory path = true) : Obstructs files path .isADirectory

theorem Obstructs.read (obstructs : files.Obstructs path error) (legal : Legal path)
    (filled : path ≠ "") : files.read path = .error error := by
  cases obstructs with
  | long long => exact read_of_locate (locate_of_long legal.noNul long)
  | barred short barred =>
    obtain ⟨route, routed⟩ := exists_route files legal filled short
    exact read_of_locate (barred.locate routed)
  | directory directory =>
    unfold isDirectory at directory
    unfold FileSystem.read
    split at directory
    · rename_i here
      rw [here]
    · cases directory

/-- What cannot be read under a path that is taken is missing, or something is in the way. -/
theorem obstructs_of_read (unread : files.read path = .error error) (legal : Legal path)
    (filled : path ≠ "") : error = .notFound ∨ files.Obstructs path error := by
  rcases read_eq_error unread with lost | ⟨rfl, directory⟩
  · rcases Nat.lt_or_ge path.utf8ByteSize pathLimit with short | long
    · obtain ⟨route, routed⟩ := exists_route files legal filled short
      rcases locate_eq_error legal routed lost with missing | ⟨rfl, barred⟩
      · exact Or.inl missing
      · exact Or.inr (.barred short barred)
    · cases (locate_of_long legal.noNul long).symm.trans lost
      exact Or.inr (.long long)
  · exact Or.inr (.directory directory)

end StepGraph.FileSystem
