import StepGraph.Shell.Utility.Characters
import StepGraph.Shell.Utility.Condition
import StepGraph.Shell.Utility.Copying
import StepGraph.Shell.Utility.Editing
import StepGraph.Shell.Utility.Fields
import StepGraph.Shell.Utility.Naming
import StepGraph.Shell.Utility.Order
import StepGraph.Shell.Utility.Permissions
import StepGraph.Shell.Utility.Printf
import StepGraph.Shell.Utility.Reckoning
import StepGraph.Shell.Utility.Running
import StepGraph.Shell.Utility.Search
import StepGraph.Shell.Utility.Sequence
import StepGraph.Shell.Utility.Streams
import StepGraph.Shell.Utility.Waiting

/-! The programs that are installed. The file of a program holds its image, which
names it, so that a copy of the file is the same program. -/
namespace StepGraph.Shell

/-- A program: the shell itself, or one of the utilities. -/
inductive Program
  | shell
  | utility (utility : Utility)
  /-- A utility that runs other programs. -/
  | runner (runner : Starter → Utility)

namespace Program

/-- The utility that always ends with a status. -/
def constant (status : Nat) : Program := .utility fun _ _ => return status

open Utility in
/-- The programs by name. -/
def all : List (String × Program) :=
  [("sh", .shell), ("dash", .shell), ("bash", .shell), ("env", .runner env),
    ("nice", .runner nice), ("nohup", .runner nohup),
    ("[", .utility bracket), ("basename", .utility basename), ("cat", .utility cat),
    ("chmod", .utility chmod), ("cp", .utility cp), ("cut", .utility cut),
    ("dirname", .utility dirname), ("echo", .utility echo), ("expr", .utility expr),
    ("false", constant 1), ("grep", .utility grep), ("head", .utility head),
    ("kill", .utility kill), ("ls", .utility ls), ("mkdir", .utility mkdir),
    ("mktemp", .utility mktemp), ("mv", .utility mv), ("paste", .utility paste),
    ("printf", .utility printf), ("pwd", .utility pwd), ("readlink", .utility readlink),
    ("realpath", .utility realpath), ("rm", .utility rm), ("rmdir", .utility rmdir),
    ("sed", .utility sed), ("seq", .utility seq), ("sleep", .utility sleep),
    ("sort", .utility sort), ("stat", .utility stat), ("sync", constant 0),
    ("tail", .utility tail), ("tee", .utility tee), ("test", .utility test),
    ("touch", .utility touch), ("tr", .utility tr), ("true", constant 0),
    ("truncate", .utility truncate), ("uniq", .utility uniq), ("wc", .utility wc),
    ("which", .utility which), ("yes", .utility yes)]

/-- What the image of every program begins with. -/
def imageMark : List UInt8 := [0x7F, 0x45, 0x4C, 0x46, 0]

/-- The image of the program of a name. -/
def image (name : String) : ByteArray := ⟨(imageMark ++ name.toUTF8.toList).toArray⟩

/-- The program that an image is. -/
def ofImage? (content : ByteArray) : Option Program :=
  let bytes := content.data.toList
  if imageMark.isPrefixOf bytes then
    all.lookup (Text.Utf8.lossy (bytes.drop imageMark.length))
  else none

/-- The directories in which every program is installed. -/
def directories : List Location := [["bin"], ["usr", "bin"]]

/-- The directories that are there before anything runs, and a file that is empty
whatever is written into it. -/
def surroundings : List (Location × FileNode) :=
  [(["bin"], .directory), (["usr"], .directory), (["usr", "bin"], .directory),
    (["tmp"], .directory), (["dev"], .directory), (["dev", "null"], .file ⟨#[]⟩ .plain)]

/-- A tree of files with the programs installed. -/
def install (files : FileSystem) : FileSystem :=
  let programs := directories.flatMap fun directory =>
    all.map fun (name, _) => (directory ++ [name], FileNode.file (image name) .program)
  (surroundings ++ programs).foldl (fun files (location, node) => files.put location node) files

end Program
end StepGraph.Shell
