/-! Reading bytes that may not be text. UTF-8 is read by a machine that takes
one byte at a time; `lossy` puts one replacement character for each longest run
of bytes that begins a character and does not finish it, and for each byte that
begins none. Bytes that are UTF-8 throughout come out unchanged. -/
namespace StepGraph.Text.Utf8

/-- Where the machine stands inside a character. -/
inductive State
  /-- Between characters. -/
  | start
  /-- `owed` continuation bytes are missing, the next of them between `low` and
  `high`; `code` is the code point read so far. -/
  | inside (owed : Nat) (low high : Nat) (code : Nat)

/-- What one byte does to the machine. -/
inductive Reading
  /-- A character is finished. -/
  | character (c : Char)
  /-- A character goes on. -/
  | more (state : State)
  /-- The byte cannot stand here. -/
  | refused

/-- The machine on the first byte of a character. -/
def first (byte : Nat) : Reading :=
  if byte ≤ 0x7F then .character (Char.ofNat byte)
  else if 0xC2 ≤ byte ∧ byte ≤ 0xDF then .more (.inside 1 0x80 0xBF (byte % 0x20))
  else if byte = 0xE0 then .more (.inside 2 0xA0 0xBF 0)
  else if byte = 0xED then .more (.inside 2 0x80 0x9F 0xD)
  else if 0xE1 ≤ byte ∧ byte ≤ 0xEF then .more (.inside 2 0x80 0xBF (byte % 0x10))
  else if byte = 0xF0 then .more (.inside 3 0x90 0xBF 0)
  else if 0xF1 ≤ byte ∧ byte ≤ 0xF3 then .more (.inside 3 0x80 0xBF (byte % 0x08))
  else if byte = 0xF4 then .more (.inside 3 0x80 0x8F 4)
  else .refused

/-- The machine on any byte. -/
def step : State → Nat → Reading
  | .start, byte => first byte
  | .inside owed low high code, byte =>
    if low ≤ byte ∧ byte ≤ high then
      if owed ≤ 1 then .character (Char.ofNat (code * 0x40 + byte % 0x40))
      else .more (.inside (owed - 1) 0x80 0xBF (code * 0x40 + byte % 0x40))
    else .refused

/-- Stands for bytes that are no text. -/
def replacement : Char := Char.ofNat 0xFFFD

/-- Reads on from a state, and restarts at a byte that breaks a character off.
The characters read so far are kept in reverse. -/
def decodeFrom : State → List UInt8 → List Char → List Char
  | .start, [], done => done.reverse
  | .inside .., [], done => (replacement :: done).reverse
  | state, byte :: rest, done =>
    match step state byte.toNat with
    | .character c => decodeFrom .start rest (c :: done)
    | .more next => decodeFrom next rest done
    | .refused =>
      match state with
      | .start => decodeFrom .start rest (replacement :: done)
      | .inside .. =>
        match first byte.toNat with
        | .character c => decodeFrom .start rest (c :: replacement :: done)
        | .more next => decodeFrom next rest (replacement :: done)
        | .refused => decodeFrom .start rest (replacement :: replacement :: done)

/-- The text of any bytes, with replacement characters where they are none. -/
def lossy (bytes : List UInt8) : String := String.ofList (decodeFrom .start bytes [])

/-- The text of bytes that are UTF-8 throughout. -/
def strict? (bytes : ByteArray) : Option String := String.fromUTF8? bytes

/-- Text survives being written as bytes. -/
theorem strict?_toUTF8 (text : String) : strict? text.toUTF8 = some text := by
  simp [strict?, String.fromUTF8?, String.fromUTF8, text.isValidUTF8]

end StepGraph.Text.Utf8
