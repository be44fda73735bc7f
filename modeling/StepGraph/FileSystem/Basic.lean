import StepGraph.Failure
import StepGraph.FileSystem.Mode
import StepGraph.Path
import StepGraph.Text.Utf8

/-! A tree of files. Each location below the root holds nothing, a file or a
directory; there are no links. Paths are walked name by name: a name that is
missing, a file where a directory is needed and a name that is too long stop the
walk, each with an error of its own. -/
namespace StepGraph

/-- Names from the root, the outermost first. -/
abbrev Location := List String

/-- What a location holds. -/
inductive FileNode
  | directory
  | file (content : ByteArray) (mode : FileMode)

/-- Files are the same when they hold the same bytes and have the same permissions. -/
instance : DecidableEq FileNode
  | .directory, .directory => isTrue rfl
  | .directory, .file .. => isFalse nofun
  | .file .., .directory => isFalse nofun
  | .file ⟨left⟩ leftMode, .file ⟨right⟩ rightMode =>
    if same : left = right ∧ leftMode = rightMode then isTrue (by rw [same.1, same.2])
    else isFalse fun equal => same (by
      injection equal with bytes mode
      injection bytes with bytes
      exact ⟨bytes, mode⟩)

/-- A tree of files, and the directory at which relative paths begin. -/
structure FileSystem where
  nodes : List (Location × FileNode)
  cwd : Location

namespace FileSystem

/-- What a location holds, if anything. The root is always a directory. -/
def get? (files : FileSystem) (location : Location) : Option FileNode :=
  if location = [] then some .directory
  else (files.nodes.find? (·.1 = location)).map Prod.snd

/-- A tree without files, in which the directory at `cwd` exists. -/
def fresh (cwd : Location) : FileSystem where
  nodes := (List.range cwd.length).map fun depth => (cwd.take (depth + 1), .directory)
  cwd := cwd

/-- Puts a node at a location. -/
def put (files : FileSystem) (location : Location) (node : FileNode) : FileSystem :=
  { files with nodes := assign files.nodes }
where
  assign : List (Location × FileNode) → List (Location × FileNode)
    | [] => [(location, node)]
    | entry :: rest =>
      if entry.1 = location then (location, node) :: rest else entry :: assign rest

/-- Takes away what a location holds. -/
def remove (files : FileSystem) (location : Location) : FileSystem :=
  { files with nodes := files.nodes.filter (·.1 ≠ location) }

/-- The names in a directory, in the order in which they were made. -/
def children (files : FileSystem) (location : Location) : List String :=
  files.nodes.filterMap fun entry =>
    match entry.1.reverse with
    | name :: above => if above.reverse = location then some name else none
    | [] => none

/-- The files below a directory: the names that lead there, and the content. -/
def filesBelow (files : FileSystem) (location : Location) : List (Location × ByteArray) :=
  files.nodes.filterMap fun entry =>
    match entry.2 with
    | .directory => none
    | .file content _ =>
      if location.isPrefixOf entry.1 then some (entry.1.drop location.length, content) else none

/-! ## Walking paths -/

/-- Names are at most this many bytes long. -/
def nameLimit : Nat := 255

/-- Paths are shorter than this many bytes. -/
def pathLimit : Nat := 4096

/-- The location of a name in a directory, which has to exist. -/
def enter (files : FileSystem) (location : Location) (name : String) :
    Except IoError Location :=
  match files.get? location with
  | none => .error .notFound
  | some (.file ..) => .error .notADirectory
  | some .directory =>
    if name = "." then .ok location
    else if name = ".." then .ok location.dropLast
    else if nameLimit < name.utf8ByteSize then .error .invalidFilename
    else .ok (location ++ [name])

/-- The location at the end of names; all but the last have to lead through
directories. -/
def walk (files : FileSystem) (start : Location) : List String → Except IoError Location
  | [] => .ok start
  | name :: rest =>
    match files.enter start name with
    | .error error => .error error
    | .ok location => files.walk location rest

/-- Where a path leads, taken apart. -/
structure Route where
  start : Location
  /-- All names but the last. -/
  above : List String
  last : Option String
  /-- Whether the path ends with a slash. -/
  endsWithSlash : Bool

/-- Takes a path apart for a walk. -/
def route (files : FileSystem) (path : String) : Except IoError Route :=
  if path.toList.contains '\x00' then .error .invalidInput
  else if path.isEmpty then .error .notFound
  else if pathLimit ≤ path.utf8ByteSize then .error .invalidFilename
  else
    let names := (Path.segments path.toList).filter (· ≠ []) |>.map String.ofList
    .ok {
      start := if Path.isAbsolute path then [] else files.cwd
      above := names.dropLast
      last := names.getLast?
      endsWithSlash := path.toList.getLast? = some '/' }

/-- The location at the end of a route, whether it holds something or not. -/
def Route.location (route : Route) (files : FileSystem) : Except IoError Location :=
  files.walk route.start (route.above ++ route.last.toList)

/-- The location of a path and what it holds. -/
def locate (files : FileSystem) (path : String) : Except IoError (Location × FileNode) := do
  let route ← files.route path
  let location ← route.location files
  match files.get? location with
  | none => .error .notFound
  | some (.file content mode) =>
    if route.endsWithSlash then .error .notADirectory else .ok (location, .file content mode)
  | some .directory => .ok (location, .directory)

/-! ## Asking -/

/-- Whether a path leads to something. -/
def exists? (files : FileSystem) (path : String) : Bool := (files.locate path).toBool

/-- Whether a path leads to a directory. -/
def isDirectory (files : FileSystem) (path : String) : Bool :=
  match files.locate path with
  | .ok (_, .directory) => true
  | _ => false

/-- The content of a file. -/
def read (files : FileSystem) (path : String) : Except IoError ByteArray :=
  match files.locate path with
  | .error error => .error error
  | .ok (_, .directory) => .error .isADirectory
  | .ok (_, .file content _) => .ok content

/-- The content of a file that is text. -/
def readText (files : FileSystem) (path : String) : Except IoError String := do
  match Text.Utf8.strict? (← files.read path) with
  | some text => .ok text
  | none => .error .invalidData

/-- The text of a location as an absolute path. -/
def absoluteText (location : Location) : String := "/" ++ "/".intercalate location

/-- The absolute path of what a path leads to. -/
def canonicalize (files : FileSystem) (path : String) : Except IoError String := do
  return absoluteText (← files.locate path).1

/-! ## Changing -/

/-- Whether the last name of a route only says where the walk stands. -/
def Route.endsInPlace (route : Route) : Bool :=
  match route.last with
  | none => true
  | some name => name = "." || name = ".."

/-- The permissions that a file has after something has been written into it. -/
def modeAt (files : FileSystem) (location : Location) : FileMode :=
  match files.get? location with
  | some (.file _ mode) => mode
  | _ => .plain

/-- Writes a file, in place of the content that is there. -/
def write (files : FileSystem) (path : String) (content : ByteArray) :
    Except IoError FileSystem := do
  let route ← files.route path
  let location ← route.location files
  if route.endsWithSlash then .error .isADirectory
  else
    match files.get? location with
    | some .directory => .error .isADirectory
    | _ => .ok (files.put location (.file content (files.modeAt location)))

/-- Makes a directory where there is nothing. -/
def makeDirectory (files : FileSystem) (path : String) : Except IoError FileSystem := do
  let route ← files.route path
  let location ← route.location files
  if route.endsInPlace || (files.get? location).isSome then .error .alreadyExists
  else .ok (files.put location .directory)

/-- Takes a file away. -/
def removeFile (files : FileSystem) (path : String) : Except IoError FileSystem := do
  let (location, node) ← files.locate path
  match node with
  | .directory => .error .isADirectory
  | .file .. => .ok (files.remove location)

/-- Moves a file to another path, in place of the file that is there. -/
def renameFile (files : FileSystem) (source target : String) : Except IoError FileSystem := do
  let targetRoute ← files.route target
  let (location, node) ← files.locate source
  let goal ← targetRoute.location files
  match node with
  | .directory => .error .isADirectory
  | .file content mode =>
    if targetRoute.endsInPlace then .error .resourceBusy
    else if targetRoute.endsWithSlash then .error .notADirectory
    else
      match files.get? goal with
      | some .directory => .error .isADirectory
      | _ => .ok ((files.remove location).put goal (.file content mode))

end FileSystem
end StepGraph
