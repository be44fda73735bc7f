import StepGraph.FileSystem.Basic

/-! What lies below a directory. The names of a directory come in the order of their
characters, and what is in a directory right behind it. -/
namespace StepGraph.FileSystem

/-- What lies below a location, each with the names that lead there. -/
def descendants (files : FileSystem) (location : Location) : List (Location × FileNode) :=
  let below := files.nodes.filterMap fun (found, node) =>
    if location.isPrefixOf found && found ≠ location then
      some (found.drop location.length, node)
    else none
  below.mergeSort fun first second => !(second.1 < first.1)

end StepGraph.FileSystem
