import StepGraph.Text.Utf8

/-! Capturing what a process prints. A stream arrives in chunks. The bytes up to
a limit are kept and the rest is counted, so that a process that prints without
end costs no more memory than one that stops at the limit. -/
namespace StepGraph

/-- The bytes kept of a stream, and how many came after them. -/
structure Captured where
  kept : List UInt8
  dropped : Nat
  deriving DecidableEq

namespace Captured

/-- Nothing yet. -/
def empty : Captured := ⟨[], 0⟩

/-- Takes in one chunk. -/
def take (limit : Nat) (captured : Captured) (chunk : List UInt8) : Captured :=
  let room := limit - captured.kept.length
  ⟨captured.kept ++ chunk.take room, captured.dropped + (chunk.length - room)⟩

/-- Takes in a stream. -/
def ofChunks (limit : Nat) (chunks : List (List UInt8)) : Captured :=
  chunks.foldl (take limit) empty

/-- How many bytes arrived. -/
def arrived (captured : Captured) : Nat := captured.kept.length + captured.dropped

end Captured
end StepGraph
