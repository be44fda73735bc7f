import StepGraph.Shell.Utility.Streams

/-! Replacing and deleting bytes. A set of bytes is written as characters, ranges
and classes; what a byte is replaced by stands at its place in a second set, whose
last byte stands for all that are missing. -/
namespace StepGraph.Shell.Utility
open Run

/-- The bytes of a class. -/
def classOf (name : String) : Option (List Nat) :=
  let among (test : Nat → Bool) : Option (List Nat) := some ((List.range 256).filter test)
  let upper (byte : Nat) : Bool := 65 ≤ byte && byte ≤ 90
  let lower (byte : Nat) : Bool := 97 ≤ byte && byte ≤ 122
  let digit (byte : Nat) : Bool := 48 ≤ byte && byte ≤ 57
  match name with
  | "upper" => among upper
  | "lower" => among lower
  | "digit" => among digit
  | "alpha" => among fun byte => upper byte || lower byte
  | "alnum" => among fun byte => upper byte || lower byte || digit byte
  | "space" => among fun byte => byte = 32 || (9 ≤ byte && byte ≤ 13)
  | "blank" => among fun byte => byte = 32 || byte = 9
  | "cntrl" => among fun byte => byte < 32 || byte = 127
  | "punct" => among fun byte =>
      33 ≤ byte && byte ≤ 126 && !(upper byte || lower byte || digit byte)
  | "print" => among fun byte => 32 ≤ byte && byte ≤ 126
  | _ => none

/-- The value of up to so many octal digits, and what stands behind them. -/
def octal : (most : Nat) → (value : Nat) → List Char → Nat × List Char
  | 0, value, cs => (value, cs)
  | _, value, [] => (value, [])
  | most + 1, value, c :: rest =>
    if '0' ≤ c && c ≤ '7' then octal most (value * 8 + (c.toNat - 48)) rest
    else (value, c :: rest)

/-- The byte that an escape names, if there is a single one. -/
def escaped : Char → Option Nat
  | 'a' => some 7
  | 'b' => some 8
  | 't' => some 9
  | 'n' => some 10
  | 'v' => some 11
  | 'f' => some 12
  | 'r' => some 13
  | '\\' => some 92
  | _ => none

/-- A byte at the beginning of a set. -/
def setByte : List Char → Option (Nat × List Char)
  | [] => none
  | '\\' :: c :: rest =>
    if '0' ≤ c && c ≤ '7' then
      let (value, rest) := octal 3 0 (c :: rest)
      some (value % 256, rest)
    else some ((escaped c).getD (c.toNat % 256), rest)
  | c :: rest => some (c.toNat % 256, rest)

/-- The bytes of a set in order; `fuel` bounds the characters. -/
def setOf : (fuel : Nat) → List Char → List Nat
  | 0, _ => []
  | fuel + 1, cs =>
    match class? cs with
    | some (bytes, rest) => bytes ++ setOf fuel rest
    | none =>
      match setByte cs with
      | none => []
      | some (first, '-' :: c :: rest) =>
        match setByte (c :: rest) with
        | some (last, rest) => List.range' first (last + 1 - first) ++ setOf fuel rest
        | none => first :: setOf fuel ('-' :: c :: rest)
      | some (first, rest) => first :: setOf fuel rest
where
  class? (cs : List Char) : Option (List Nat × List Char) :=
    match cs with
    | '[' :: ':' :: rest =>
      match rest.dropWhile (· ≠ ':') with
      | ':' :: ']' :: after =>
        (classOf (String.ofList (rest.takeWhile (· ≠ ':')))).map (·, after)
      | _ => none
    | _ => none

/-- The characters of a set as they stand for bytes. -/
def bytesOfSet (text : String) : List Nat :=
  let cs := text.toUTF8.toList.map fun byte => Char.ofNat byte.toNat
  setOf (cs.length + 1) cs

/-- What each byte is replaced by. -/
def replaced (source target : List Nat) (byte : UInt8) : UInt8 :=
  match source.reverse.idxOf? byte.toNat with
  | none => byte
  | some index =>
    let place := source.length - 1 - index
    match target[place]? with
    | some found => UInt8.ofNat found
    | none => ((target.getLast?).map UInt8.ofNat).getD byte

/-- Keeps one of each run of equal bytes of a set. -/
def squeezed (set : List Nat) : List UInt8 → List UInt8
  | [] => []
  | [byte] => [byte]
  | first :: second :: rest =>
    if first = second && set.contains first.toNat then squeezed set (second :: rest)
    else first :: squeezed set (second :: rest)

/-- Replaces, deletes or squeezes bytes. -/
def tr : Utility := withOptions { flags := "cCds" } 1 fun speaker options => do
  let complemented := options.has 'c' || options.has 'C'
  let complement (set : List Nat) : List Nat :=
    if complemented then (List.range 256).filter (!set.contains ·) else set
  let apply (change : List UInt8 → List UInt8) : Run Nat := do
    match ← takeInput 0 with
    | .error error => complain speaker s!"read error: {error.reason}"; return 1
    | .ok (bytes, forever) =>
      let _ ← write 1 (change bytes)
      if forever ≠ [] then writeForever (change forever)
      return 0
  match options.operands.map bytesOfSet, options.has 'd', options.has 's' with
  | [source], true, false =>
    let source := complement source
    apply fun bytes => bytes.filter fun byte => !source.contains byte.toNat
  | [source], false, true => apply (squeezed (complement source))
  | [source, target], false, squeeze =>
    let table := (List.range 256).map fun byte =>
      replaced (complement source) target (UInt8.ofNat byte)
    let table := ByteArray.mk table.toArray
    apply fun bytes =>
      let bytes := bytes.map fun byte => (table.data[byte.toNat]?).getD byte
      if squeeze then squeezed target bytes else bytes
  | [source, target], true, true =>
    let source := complement source
    apply fun bytes => squeezed target (bytes.filter fun byte => !source.contains byte.toNat)
  | [], _, _ => misuse speaker "missing operand" 1
  | [_], _, _ => misuse speaker ("missing operand after '" ++ options.operands.headD "" ++ "'") 1
  | _, _, _ => misuse speaker ("extra operand '" ++ options.operands.getLastD "" ++ "'") 1

end StepGraph.Shell.Utility
