import StepGraph.FileSystem.Basic

/-! Replacing a file at one stroke. The new content is written to a sibling with
another name, which then takes the place of the file; whoever reads the path
finds the old content or the new one. The operations on files are given by a
`Disk`, which may fail at any of them. -/
namespace StepGraph

/-- The operations that change files. Each says how it went and what the files
are then. -/
structure Disk where
  makeDirectory : String → FileSystem → Except IoError Unit × FileSystem
  write : String → ByteArray → FileSystem → Except IoError Unit × FileSystem
  renameFile : String → String → FileSystem → Except IoError Unit × FileSystem

namespace Disk

/-- An operation that changes nothing when it fails. -/
def allOrNothing (operation : FileSystem → Except IoError FileSystem) (files : FileSystem) :
    Except IoError Unit × FileSystem :=
  match operation files with
  | .ok changed => (.ok (), changed)
  | .error error => (.error error, files)

/-- The disk on which operations fail only for a reason in the tree. -/
def sound : Disk where
  makeDirectory path := allOrNothing (·.makeDirectory path)
  write path content := allOrNothing (·.write path content)
  renameFile source target := allOrNothing (·.renameFile source target)

/-- Makes a directory that may be there already. -/
def ensureDirectory (disk : Disk) (path : String) (files : FileSystem) :
    Except IoError Unit × FileSystem :=
  match disk.makeDirectory path files with
  | (.ok _, changed) => (.ok (), changed)
  | (.error error, changed) =>
    if changed.isDirectory path then (.ok (), changed)
    else (.error error, changed)

/-- Makes a directory and the directories above it. `fuel` bounds how many are
above it. -/
def makeDirectoriesWithin (disk : Disk) :
    (fuel : Nat) → String → FileSystem → Except IoError Unit × FileSystem
  | 0, _, files => (.ok (), files)
  | fuel + 1, path, files =>
    if path.isEmpty then (.ok (), files)
    else
      match disk.ensureDirectory path files with
      | (.error .notFound, changed) =>
        match Path.parent? path with
        | none => (.error .notFound, changed)
        | some parent =>
          match disk.makeDirectoriesWithin fuel parent changed with
          | (.error error, changed) => (.error error, changed)
          | (.ok _, changed) => disk.ensureDirectory path changed
      | other => other

/-- Makes a directory and the directories above it. -/
def makeDirectories (disk : Disk) (path : String) : FileSystem → Except IoError Unit × FileSystem :=
  disk.makeDirectoriesWithin (path.length + 1) path

/-- What is behind a name while a file of that name is being replaced. -/
def temporaryName (name : String) : String := name ++ ".tmp"

/-- Replaces a file at one stroke, and makes the directories above it. -/
def replace (disk : Disk) (path : String) (content : ByteArray) (files : FileSystem) :
    Except Failure Unit × FileSystem :=
  match Path.parent? path with
  | none => (.error (.single (.noParent path)), files)
  | some parent =>
    match disk.makeDirectories parent files with
    | (.error error, changed) => (.error (.refused (.createDirectory parent) error), changed)
    | (.ok _, files) =>
      match Path.fileName? path with
      | none => (.error (.single (.noFileName path)), files)
      | some name =>
        let temporary := Path.withFileName path (temporaryName name)
        match disk.write temporary content files with
        | (.error error, changed) =>
          (.error (.refused (.writeTemporary temporary) error), changed)
        | (.ok _, files) =>
          match disk.renameFile temporary path files with
          | (.error error, changed) => (.error (.refused (.replace path) error), changed)
          | (.ok _, changed) => (.ok (), changed)

end Disk
end StepGraph
