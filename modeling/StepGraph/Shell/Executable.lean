import StepGraph.Shell.Programs

/-! Files that can be run. The content of a file says what runs it: the image of a
program is that program, a first line that begins with `#!` names another file, the
interpreter, and any other text is for the shell. Which files are tried for a name
without a slash is for the directories of a search path to say. -/
namespace StepGraph.Shell

/-- A program that is ready to start. -/
structure Executable where
  program : Program
  /-- The name under which it starts. -/
  name : String
  /-- The arguments that stand before those it is given. -/
  leading : List String

namespace Executable

/-- What the content of a file says about running it. -/
inductive Content
  | image (program : Program)
  | script (interpreter : String) (argument : Option String)
  /-- Text without a word about what runs it. -/
  | text
  | binary

/-- The line behind `#!`: the path of the interpreter and what else there is. -/
def scriptLine (line : List Char) : Content :=
  let isBlank (c : Char) : Bool := c = ' ' || c = '\t'
  let line := ((line.dropWhile isBlank).reverse.dropWhile isBlank).reverse
  match line.takeWhile (!isBlank ·), (line.dropWhile (!isBlank ·)).dropWhile isBlank with
  | [], _ => .text
  | interpreter, [] => .script (String.ofList interpreter) none
  | interpreter, argument => .script (String.ofList interpreter) (some (String.ofList argument))

/-- Takes the content of a file for what it says. -/
def contentOf (content : ByteArray) : Content :=
  match Program.ofImage? content with
  | some program => .image program
  | none =>
    let bytes := content.data.toList
    match bytes with
    | 35 :: 33 :: rest => scriptLine (Text.Utf8.lossy (rest.takeWhile (· ≠ 10))).toList
    | _ => if bytes.contains 0 then .binary else .text

/-- Scripts whose interpreters are scripts go no further than this. -/
def chainLimit : Nat := 6

/-- The program that a path leads to. It starts under the name `called`, unless it
is an interpreter; then it starts under the path that the script gives. Text without
an interpreter is run by the shell if `forShell`, and else by nothing. `fuel` bounds
the interpreters. -/
def atPath (forShell : Bool) (files : FileSystem) :
    (fuel : Nat) → (called path : String) → Except IoError Executable
  | 0, _, _ => .error .endlessChain
  | fuel + 1, called, path =>
    match files.locate path with
    | .error error => .error error
    | .ok (_, .directory) => .error .permissionDenied
    | .ok (_, .file content mode) =>
      if !mode.mayRun then .error .permissionDenied
      else
        match contentOf content with
        | .image program => .ok ⟨program, called, []⟩
        | .binary => .error .noProgram
        | .text => if forShell then .ok ⟨.shell, "/bin/sh", [path]⟩ else .error .noProgram
        | .script interpreter argument =>
          (atPath false files fuel interpreter interpreter).map fun found =>
            { found with leading := found.leading ++ argument.toList ++ [path] }

/-- Whether a path leads to a file that may be run. -/
def isCandidate (files : FileSystem) (path : String) : Bool :=
  match files.locate path with
  | .ok (_, .file _ mode) => mode.mayRun
  | _ => false

/-- The directories of a search path. -/
def directories (searchPath : String) : List String :=
  splitAtColons searchPath.toList |>.map String.ofList
where
  splitAtColons : List Char → List (List Char)
    | [] => [[]]
    | ':' :: rest => [] :: splitAtColons rest
    | c :: rest =>
      match splitAtColons rest with
      | [] => [[c]]
      | first :: others => (c :: first) :: others

/-- The path of a name in a directory; no directory is the one at hand. -/
def inDirectory (name directory : String) : String :=
  if directory = "" then name else directory ++ "/" ++ name

/-- The first of some paths that leads to a program. One that may not be run is
remembered, and another obstacle ends the search. -/
def firstOf (forShell : Bool) (files : FileSystem) (called : String) (denied : Bool) :
    List String → Except IoError Executable
  | [] => .error (if denied then .permissionDenied else .notFound)
  | path :: rest =>
    match atPath forShell files chainLimit called path with
    | .ok found => .ok found
    | .error .permissionDenied => firstOf forShell files called true rest
    | .error .notFound => firstOf forShell files called denied rest
    | .error .notADirectory => firstOf forShell files called denied rest
    | .error error => .error error

/-- The program of a name: at the path that the name is, or in the directories of
the search path. -/
def find (forShell : Bool) (files : FileSystem) (searchPath name : String) :
    Except IoError Executable :=
  if name = "" then .error .notFound
  else if name.toList.contains '/' then atPath forShell files chainLimit name name
  else if FileSystem.nameLimit < name.utf8ByteSize then .error .invalidFilename
  else firstOf forShell files name false ((directories searchPath).map (inDirectory name))

/-- The path at which the shell finds a name in the directories of the search path:
the first that leads to a file that may be run. -/
def lookUp? (files : FileSystem) (searchPath name : String) : Option String :=
  ((directories searchPath).map (inDirectory name)).find? (isCandidate files)

end Executable
end StepGraph.Shell
