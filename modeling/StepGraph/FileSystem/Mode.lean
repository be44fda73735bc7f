/-! The permissions of a file. Whoever runs steps may read and write every file, so
the permissions decide one thing: whether a file can be run. -/
namespace StepGraph

/-- Twelve bits. The lowest nine say, three by three, whether the owner, the group
and all others may read, write and run the file. -/
structure FileMode where
  bits : Nat
  deriving DecidableEq

namespace FileMode

/-- The permissions of a file that has been written. -/
def plain : FileMode := ⟨0o644⟩

/-- The permissions of a program. -/
def program : FileMode := ⟨0o755⟩

/-- Whether anyone may run the file. -/
def mayRun (mode : FileMode) : Bool := mode.bits &&& 0o111 ≠ 0

end FileMode
end StepGraph
