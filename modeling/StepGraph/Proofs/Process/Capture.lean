import StepGraph.Process.Capture

/-! What is captured of a stream. The chunks in which it arrives leave no trace: after each of them
there is as much kept and as much counted as if the stream so far had come in one piece, wherever
the limit falls. -/
namespace StepGraph.Captured

variable {limit : Nat}

/-- A stream up to the limit, and how much of it is beyond. -/
def ofStream (limit : Nat) (stream : List UInt8) : Captured :=
  ⟨stream.take (min limit stream.length), stream.length - min limit stream.length⟩

private theorem length_kept_ofStream (limit : Nat) (stream : List UInt8) :
    (ofStream limit stream).kept.length = min limit stream.length := by
  simp [ofStream]

/-- Each byte of a stream is kept or counted. -/
theorem arrived_ofStream (limit : Nat) (stream : List UInt8) :
    (ofStream limit stream).arrived = stream.length := by
  have within : min limit stream.length ≤ stream.length := Nat.min_le_right _ _
  rw [arrived, length_kept_ofStream]
  exact Nat.add_sub_cancel' within

/-- A chunk is captured as the end of the stream so far. -/
theorem take_ofStream (limit : Nat) (stream chunk : List UInt8) :
    (ofStream limit stream).take limit chunk = ofStream limit (stream ++ chunk) := by
  have before : stream.take (min limit (stream ++ chunk).length) =
      stream.take (min limit stream.length) := by
    rw [List.take_eq_take_iff, List.length_append]
    omega
  have behind : chunk.take (min limit (stream ++ chunk).length - stream.length) =
      chunk.take (limit - min limit stream.length) := by
    rw [List.take_eq_take_iff, List.length_append]
    omega
  have beyond : stream.length - min limit stream.length +
        (chunk.length - (limit - min limit stream.length)) =
      (stream ++ chunk).length - min limit (stream ++ chunk).length := by
    rw [List.length_append]
    omega
  unfold take
  rw [length_kept_ofStream]
  simp only [ofStream, List.take_append, before, behind, beyond]

/-- What the chunks so far have left is that of the stream so far. -/
theorem foldl_take_ofStream (stream : List UInt8) (chunks : List (List UInt8)) :
    chunks.foldl (take limit) (ofStream limit stream) =
      ofStream limit (stream ++ chunks.flatten) := by
  induction chunks generalizing stream with
  | nil => rw [List.flatten_nil, List.append_nil, List.foldl_nil]
  | cons chunk later ih =>
    rw [List.foldl_cons, take_ofStream, ih, List.flatten_cons, List.append_assoc]

private theorem ofStream_nil (limit : Nat) : ofStream limit [] = empty := by
  simp [ofStream, empty]

private theorem ofChunks_eq (limit : Nat) (chunks : List (List UInt8)) :
    ofChunks limit chunks = ofStream limit chunks.flatten := by
  rw [ofChunks, ← ofStream_nil limit, foldl_take_ofStream, List.nil_append]

/-- Takes in what the reads bring, one after the other, until one of them brings nothing. As long as
none has, the stream has not ended. -/
def readToEnd? (limit : Nat) (captured : Captured) : (reads : List (List UInt8)) → Option Captured
  | [] => none
  | [] :: _ => some captured
  | (byte :: more) :: later =>
    let chunk := byte :: more
    let room := limit - captured.kept.length
    if 0 < room then
      let count := min chunk.length room
      readToEnd? limit
        ⟨captured.kept ++ chunk.take count, captured.dropped + (chunk.length - count)⟩ later
    else readToEnd? limit ⟨captured.kept, captured.dropped + chunk.length⟩ later

/-- With room left or without, what a read brings is taken in as a chunk. -/
theorem readToEnd?_cons {chunk : List UInt8} (filled : chunk ≠ []) (captured : Captured)
    (later : List (List UInt8)) :
    readToEnd? limit captured (chunk :: later) =
      readToEnd? limit (captured.take limit chunk) later := by
  obtain ⟨byte, more, rfl⟩ := List.exists_cons_of_ne_nil filled
  rw [readToEnd?]
  generalize byte :: more = chunk
  by_cases room : 0 < limit - captured.kept.length
  · have counted : chunk.length - min chunk.length (limit - captured.kept.length) =
        chunk.length - (limit - captured.kept.length) := by
      omega
    have kept : chunk.take (min chunk.length (limit - captured.kept.length)) =
        chunk.take (limit - captured.kept.length) := by
      rw [List.take_eq_take_iff]
      omega
    simp only [if_pos room, take, counted, kept]
  · have full : limit - captured.kept.length = 0 := by
      omega
    simp [take, full]

/-- Reading ends with the first read that brings nothing, with what the reads before it have left. -/
theorem readToEnd?_eq {chunks : List (List UInt8)} (filled : ∀ chunk ∈ chunks, chunk ≠ [])
    (captured : Captured) (later : List (List UInt8)) :
    readToEnd? limit captured (chunks ++ [] :: later) =
      some (chunks.foldl (take limit) captured) := by
  induction chunks generalizing captured with
  | nil => rfl
  | cons chunk rest ih =>
    obtain ⟨first, others⟩ := List.forall_mem_cons.mp filled
    rw [List.cons_append, readToEnd?_cons first, ih others, List.foldl_cons]

/-- However a stream is cut into chunks, its bytes up to the limit are kept, in order, and the others
are counted; so what is kept and what is counted together are the whole stream. Reads that bring
these chunks and then nothing come to that. -/
theorem chunks_leave_no_trace (limit : Nat) (chunks : List (List UInt8)) :
    (ofChunks limit chunks).kept =
        chunks.flatten.take (min limit chunks.flatten.length) ∧
      (ofChunks limit chunks).dropped =
        chunks.flatten.length - min limit chunks.flatten.length ∧
      (ofChunks limit chunks).kept.length + (ofChunks limit chunks).dropped =
        chunks.flatten.length ∧
      ((∀ chunk ∈ chunks, chunk ≠ []) → ∀ later,
        readToEnd? limit empty (chunks ++ [] :: later) = some (ofChunks limit chunks)) := by
  refine ⟨?_, ?_, ?_, fun filled later => readToEnd?_eq filled empty later⟩
  · rw [ofChunks_eq]
    rfl
  · rw [ofChunks_eq]
    rfl
  · rw [ofChunks_eq]
    exact arrived_ofStream limit chunks.flatten

end StepGraph.Captured
