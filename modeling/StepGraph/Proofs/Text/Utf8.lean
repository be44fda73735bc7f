import StepGraph.Text.Utf8

/-! Bytes that are text. The machine that reads bytes takes the encoding of each
character in one to four steps and comes out with that character, so that reading the
bytes of a text, as strictly or as leniently as one likes, gives the text back. -/
namespace StepGraph.Text.Utf8

private theorem toList_loop (bytes : ByteArray) (index : Nat) (done : List UInt8) :
    ByteArray.toList.loop bytes index done = done.reverse ++ bytes.data.toList.drop index := by
  fun_induction ByteArray.toList.loop bytes index done with
  | case1 index done inside ih =>
    have within : index < bytes.data.toList.length := by simpa using inside
    have taken : bytes.get! index = bytes.data.toList[index] := by
      simp only [ByteArray.get!]
      rw [getElem!_pos _ _ (by simpa using within)]
      simp
    rw [ih, List.drop_eq_getElem_cons within, List.reverse_cons, taken, List.append_assoc]
    rfl
  | case2 index done outside =>
    have beyond : bytes.data.toList.length ≤ index := by simpa using outside
    rw [List.drop_eq_nil_of_le beyond, List.append_nil]

private theorem toList_eq_data (bytes : ByteArray) : bytes.toList = bytes.data.toList := by
  rw [ByteArray.toList, toList_loop]
  rfl

/-- The bytes of a text are those of its characters, one after the other. -/
theorem toUTF8_toList (text : String) :
    text.toUTF8.toList = text.toList.flatMap String.utf8EncodeChar := by
  have encoded : text.toUTF8 = text.toList.utf8Encode := String.utf8Encode_toList.symm
  rw [encoded, List.utf8Encode, toList_eq_data, List.toList_data_toByteArray]

variable {state next : State} {byte : Nat} {c : Char} {rest : List UInt8} {done : List Char}

private theorem decodeFrom_more (small : byte < 256) (taken : step state byte = .more next) :
    decodeFrom state (UInt8.ofNat byte :: rest) done = decodeFrom next rest done := by
  rw [← UInt8.toNat_ofNat_of_lt' (n := byte) small] at taken
  cases state <;> simp only [decodeFrom, taken]

private theorem decodeFrom_character (small : byte < 256) (taken : step state byte = .character c) :
    decodeFrom state (UInt8.ofNat byte :: rest) done = decodeFrom .start rest (c :: done) := by
  rw [← UInt8.toNat_ofNat_of_lt' (n := byte) small] at taken
  cases state <;> simp only [decodeFrom, taken]

/-- A byte inside a character adds six bits. -/
theorem step_inside {owed low high code : Nat}
    (within : low ≤ code % 64 + 0x80 ∧ code % 64 + 0x80 ≤ high) (more : 1 < owed) :
    step (.inside owed low high (code / 64)) (code % 64 + 0x80) =
      .more (.inside (owed - 1) 0x80 0xBF code) := by
  have added : code / 64 * 0x40 + (code % 64 + 0x80) % 0x40 = code := by omega
  rw [step, if_pos within, if_neg (by omega), added]

/-- The last byte of a character finishes it. -/
theorem step_finishes {low high : Nat}
    (within : low ≤ c.toNat % 64 + 0x80 ∧ c.toNat % 64 + 0x80 ≤ high) :
    step (.inside 1 low high (c.toNat / 64)) (c.toNat % 64 + 0x80) = .character c := by
  have added : c.toNat / 64 * 0x40 + (c.toNat % 64 + 0x80) % 0x40 = c.toNat := by omega
  rw [step, if_pos within, if_pos (Nat.le_refl 1), added, Char.ofNat_toNat]

private theorem first_of_two {code : Nat} (large : 0x7F < code) (small : code ≤ 0x7FF) :
    first (code / 64 % 32 + 0xC0) = .more (.inside 1 0x80 0xBF (code / 64)) := by
  have kept : (code / 64 % 32 + 0xC0) % 0x20 = code / 64 := by omega
  rw [first, if_neg (by omega), if_pos (by omega), kept]

/-- The second of three bytes stands in the range that the first leaves it: surrogates
and what two bytes can say are shut out. -/
theorem first_of_three {code : Nat} (large : 0x7FF < code) (small : code ≤ 0xFFFF)
    (whole : code < 0xD800 ∨ 0xDFFF < code) :
    ∃ low high, first (code / 4096 % 16 + 0xE0) = .more (.inside 2 low high (code / 4096)) ∧
      low ≤ code / 64 % 64 + 0x80 ∧ code / 64 % 64 + 0x80 ≤ high := by
  have kept : (code / 4096 % 16 + 0xE0) % 0x10 = code / 4096 := by omega
  unfold first
  rw [if_neg (by omega), if_neg (by omega)]
  by_cases lowest : code / 4096 % 16 + 0xE0 = 0xE0
  · have zero : code / 4096 = 0 := by omega
    rw [if_pos lowest, zero]
    exact ⟨0xA0, 0xBF, rfl, by omega, by omega⟩
  by_cases surrogate : code / 4096 % 16 + 0xE0 = 0xED
  · have thirteen : code / 4096 = 0xD := by omega
    rw [if_neg lowest, if_pos surrogate, thirteen]
    exact ⟨0x80, 0x9F, rfl, by omega, by omega⟩
  · rw [if_neg lowest, if_neg surrogate, if_pos (by omega), kept]
    exact ⟨0x80, 0xBF, rfl, by omega, by omega⟩

/-- The second of four bytes stands in the range that the first leaves it. -/
theorem first_of_four {code : Nat} (large : 0xFFFF < code) (small : code < 0x110000) :
    ∃ low high, first (code / 262144 % 8 + 0xF0) =
        .more (.inside 3 low high (code / 262144)) ∧
      low ≤ code / 4096 % 64 + 0x80 ∧ code / 4096 % 64 + 0x80 ≤ high := by
  have kept : (code / 262144 % 8 + 0xF0) % 0x08 = code / 262144 := by omega
  unfold first
  rw [if_neg (by omega), if_neg (by omega), if_neg (by omega), if_neg (by omega),
    if_neg (by omega)]
  by_cases lowest : code / 262144 % 8 + 0xF0 = 0xF0
  · have zero : code / 262144 = 0 := by omega
    rw [if_pos lowest, zero]
    exact ⟨0x90, 0xBF, rfl, by omega, by omega⟩
  by_cases middle : code / 262144 % 8 + 0xF0 ≤ 0xF3
  · rw [if_neg lowest, if_pos (by omega), kept]
    exact ⟨0x80, 0xBF, rfl, by omega, by omega⟩
  · have four : code / 262144 = 4 := by omega
    rw [if_neg lowest, if_neg (by omega), if_pos (by omega), four]
    exact ⟨0x80, 0x8F, rfl, by omega, by omega⟩

private theorem utf8EncodeChar_eq (c : Char) : String.utf8EncodeChar c =
    if c.toNat ≤ 0x7F then [UInt8.ofNat c.toNat]
    else if c.toNat ≤ 0x7FF then
      [UInt8.ofNat (c.toNat / 64 % 32 + 0xC0), UInt8.ofNat (c.toNat % 64 + 0x80)]
    else if c.toNat ≤ 0xFFFF then
      [UInt8.ofNat (c.toNat / 4096 % 16 + 0xE0), UInt8.ofNat (c.toNat / 64 % 64 + 0x80),
        UInt8.ofNat (c.toNat % 64 + 0x80)]
    else
      [UInt8.ofNat (c.toNat / 262144 % 8 + 0xF0), UInt8.ofNat (c.toNat / 4096 % 64 + 0x80),
        UInt8.ofNat (c.toNat / 64 % 64 + 0x80), UInt8.ofNat (c.toNat % 64 + 0x80)] := rfl

/-- The bytes of a character are read as that character. -/
theorem decodeFrom_utf8EncodeChar (c : Char) (rest : List UInt8) (done : List Char) :
    decodeFrom .start (String.utf8EncodeChar c ++ rest) done =
      decodeFrom .start rest (c :: done) := by
  have valid : c.toNat < 0xD800 ∨ 0xDFFF < c.toNat ∧ c.toNat < 0x110000 := c.valid
  rw [utf8EncodeChar_eq]
  split
  · rename_i one
    have taken : step .start c.toNat = .character c := by
      rw [step, first, if_pos one, Char.ofNat_toNat]
    exact decodeFrom_character (by omega) taken
  split
  · rename_i more two
    have opened : step .start (c.toNat / 64 % 32 + 0xC0) = _ := first_of_two (by omega) two
    exact (decodeFrom_more (by omega) opened).trans
      (decodeFrom_character (by omega) (step_finishes (by omega)))
  split
  · rename_i more three
    obtain ⟨low, high, opens, within⟩ :=
      first_of_three (show 0x7FF < c.toNat by omega) three (by omega)
    have opened : step .start (c.toNat / 4096 % 16 + 0xE0) = _ := opens
    have second : step (.inside 2 low high (c.toNat / 4096)) (c.toNat / 64 % 64 + 0x80) =
        .more (.inside 1 0x80 0xBF (c.toNat / 64)) := by
      rw [show c.toNat / 4096 = c.toNat / 64 / 64 by omega]
      exact step_inside within (by omega)
    exact (decodeFrom_more (by omega) opened).trans ((decodeFrom_more (by omega) second).trans
      (decodeFrom_character (by omega) (step_finishes (by omega))))
  · obtain ⟨low, high, opens, within⟩ :=
      first_of_four (show 0xFFFF < c.toNat by omega) (by omega)
    have opened : step .start (c.toNat / 262144 % 8 + 0xF0) = _ := opens
    have second : step (.inside 3 low high (c.toNat / 262144)) (c.toNat / 4096 % 64 + 0x80) =
        .more (.inside 2 0x80 0xBF (c.toNat / 4096)) := by
      rw [show c.toNat / 262144 = c.toNat / 4096 / 64 by omega]
      exact step_inside within (by omega)
    have third : step (.inside 2 0x80 0xBF (c.toNat / 4096)) (c.toNat / 64 % 64 + 0x80) =
        .more (.inside 1 0x80 0xBF (c.toNat / 64)) := by
      rw [show c.toNat / 4096 = c.toNat / 64 / 64 by omega]
      exact step_inside (by omega) (by omega)
    exact (decodeFrom_more (by omega) opened).trans ((decodeFrom_more (by omega) second).trans
      ((decodeFrom_more (by omega) third).trans
        (decodeFrom_character (by omega) (step_finishes (by omega)))))

private theorem decodeFrom_encoded (cs done : List Char) :
    decodeFrom .start (cs.flatMap String.utf8EncodeChar) done = done.reverse ++ cs := by
  induction cs generalizing done with
  | nil => simp [decodeFrom]
  | cons c cs ih =>
    rw [List.flatMap_cons, decodeFrom_utf8EncodeChar, ih]
    simp

/-- Bytes that are the bytes of a text are read as that text. -/
theorem lossy_toUTF8 (text : String) : lossy text.toUTF8.toList = text := by
  rw [lossy, toUTF8_toList, decodeFrom_encoded]
  simp

end StepGraph.Text.Utf8
