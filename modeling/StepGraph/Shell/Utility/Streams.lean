import StepGraph.Shell.Utility.Options

/-! The input of utilities, and those that copy it, or part of it, to their output. -/
namespace StepGraph.Shell.Utility
open Run

/-- What is said of a file that cannot be read. -/
abbrev Complaint := (path : String) → IoError → String

/-- The name of the file and what is wrong with it. -/
def plainComplaint : Complaint := fun path error => s!"{path}: {error.reason}"

/-- The input that an operand names; a dash stands for the standard input. -/
def inputOf (path : String) : Run (Except IoError (List UInt8 × List UInt8)) :=
  if path = "-" then takeInput 0 else inputAt path

/-- The input of a utility: the files that are named, or the standard input if none
is. Files that cannot be read are complained about. -/
def inputs (complaint : Complaint) (speaker : String) (operands : List String) :
    Run (List (String × List UInt8 × List UInt8) × Nat) :=
  (if operands = [] then ["-"] else operands).foldlM (fun (found, status) path => do
    match ← inputOf path with
    | .ok (bytes, forever) => return (found ++ [(path, bytes, forever)], status)
    | .error error =>
      complain speaker (complaint path error)
      return (found, 1)) ([], 0)

/-- All bytes of the input, which has to end. -/
def wholeInput (complaint : Complaint) (speaker : String) (operands : List String) :
    Run (List UInt8 × Nat) := do
  let (found, status) ← inputs complaint speaker operands
  if found.any fun (_, _, forever) => forever ≠ [] then hang
  else return (found.flatMap fun (_, bytes, _) => bytes, status)

/-- Writes the content of a file. Some names stand for descriptors. -/
def writeTo (path : String) (append : Bool) (bytes : List UInt8) : Run (Except IoError Unit) := do
  match path with
  | "/dev/null" => return .ok ()
  | "/dev/stdout" => let _ ← write 1 bytes; return .ok ()
  | "/dev/stderr" => let _ ← write 2 bytes; return .ok ()
  | path =>
    let tree ← files
    let before : ByteArray := if append then (tree.read path).toOption.getD ⟨#[]⟩ else ⟨#[]⟩
    match tree.write path ⟨before.data ++ bytes.toArray⟩ with
    | .ok changed => setFiles changed; return .ok ()
    | .error error => return .error error

/-! ## Whole inputs -/

/-- How bytes are made visible. -/
structure Display where
  /-- Whether bytes that cannot be seen are shown by others. -/
  visible : Bool
  tabs : Bool
  ends : Bool

/-- A byte as it is shown. -/
def Display.byte (display : Display) (byte : UInt8) : List UInt8 :=
  let low (byte : UInt8) : List UInt8 :=
    if byte < 32 then [94, byte + 64] else if byte = 127 then [94, 63] else [byte]
  if byte = 9 then if display.tabs then low byte else [byte]
  else if !display.visible then [byte]
  else if byte < 128 then low byte
  else [77, 45] ++ low (byte - 128)

/-- How lines are printed one after another. -/
structure CopyStyle where
  display : Display
  numbered : Bool
  /-- Whether lines without text have no number. -/
  sparing : Bool
  squeezed : Bool

/-- A line of an input, and whether it has an end. -/
structure CopiedLine where
  text : List UInt8
  ended : Bool

/-- The lines of an input; the last one may lack its end. -/
def copiedLines (bytes : List UInt8) : List CopiedLine :=
  let all := (lines bytes).map fun line => CopiedLine.mk line true
  if bytes = [] || bytes.getLast? = some 10 then all
  else all.dropLast ++ (all.getLast?.map fun line => { line with ended := false }).toList

/-- Prints lines in a style. -/
def CopyStyle.copy (style : CopyStyle) (bytes : List UInt8) : List UInt8 :=
  let add (done : List (List UInt8) × Nat × Bool) (line : CopiedLine) :
      List (List UInt8) × Nat × Bool :=
    let (output, number, afterEmpty) := done
    let isEmpty := line.text.isEmpty && line.ended
    if style.squeezed && isEmpty && afterEmpty then done
    else
      let counted := style.numbered && !(style.sparing && isEmpty)
      let digits := Text.Decimal.text number
      let lead := if counted then "".pushn ' ' (6 - digits.length) ++ digits ++ "\t" else ""
      let mark : List UInt8 := if style.display.ends && line.ended then [36] else []
      let text := match line.text.reverse with
        | 13 :: before =>
          let shown := if style.display.ends && line.ended then [94, 77]
            else style.display.byte 13
          before.reverse.flatMap style.display.byte ++ shown
        | _ => line.text.flatMap style.display.byte
      let shown := lead.toUTF8.toList ++ text ++ mark ++ if line.ended then [10] else []
      (shown :: output, if counted then number + 1 else number, isEmpty)
  ((copiedLines bytes).foldl add ([], 1, false)).1.reverse.flatten

/-- The options of printing files. -/
def catGrammar : Grammar where
  flags := "benstuvAET"
  long := [("show-all", 'A'), ("number-nonblank", 'b'), ("show-ends", 'E'), ("number", 'n'),
    ("squeeze-blank", 's'), ("show-tabs", 'T'), ("show-nonprinting", 'v')]

/-- Prints files one after another. -/
def cat : Utility := withOptions catGrammar 1 fun speaker options => do
  let has (letters : String) : Bool := letters.toList.any options.has
  let style : CopyStyle := {
    display := { visible := has "vAet", tabs := has "TAt", ends := has "EAe" }
    numbered := has "nb", sparing := has "b", squeezed := has "s" }
  let isPlain := !has "benstvAET"
  let (found, status) ← inputs plainComplaint speaker options.operands
  let finite := found.takeWhile fun (_, _, forever) => forever = []
  let endless := (found.drop finite.length).take 1
  let bytes := (finite ++ endless).flatMap fun (_, bytes, _) => bytes
  let _ ← write 1 (if isPlain then bytes else style.copy bytes)
  for (_, _, forever) in endless do
    writeForever (if isPlain then forever else style.copy forever)
  return status

/-! ## Parts of inputs -/

/-- So many bytes of what comes again and again. -/
def takeForever (count : Nat) (forever : List UInt8) : List UInt8 :=
  (List.replicate (count / max 1 forever.length + 1) forever).flatten.take count

/-- Which end of an input is taken. -/
inductive Side
  | beginning
  | ending
  deriving DecidableEq

/-- What is counted. -/
inductive Portion
  | bytes
  | lines
  deriving DecidableEq

/-- What is taken of an input: so much on one side, or all but so much on the other. -/
structure Extent where
  unit : Portion
  count : Nat
  /-- Whether the count says how much is left out. -/
  others : Bool

/-- Bytes in parts that an ending closes; the last part may lack it. -/
def closedParts (ending : UInt8) (bytes : List UInt8) : List (List UInt8) :=
  let parts := (linesEndedBy ending bytes).map (· ++ [ending])
  if bytes = [] || bytes.getLast? = some ending then parts
  else parts.dropLast ++ (parts.getLast?.map List.dropLast).toList

/-- The parts of an input that are counted. -/
def Extent.parts (extent : Extent) (ending : UInt8) (bytes : List UInt8) : List (List UInt8) :=
  match extent.unit with
  | .bytes => bytes.map fun byte => [byte]
  | .lines => closedParts ending bytes

/-- The beginning of an input. Of one that never ends so much is looked at as is needed. -/
def Extent.first (extent : Extent) (ending : UInt8) (bytes forever : List UInt8) : List UInt8 :=
  let endless := match extent.unit with
    | .bytes => takeForever (extent.count - bytes.length) forever
    | .lines => if forever.contains ending then takeForever (extent.count * forever.length) forever
      else []
  let parts := extent.parts ending (bytes ++ endless)
  (parts.take (if extent.others then parts.length - extent.count else extent.count)).flatten

/-- The end of an input. -/
def Extent.last (extent : Extent) (ending : UInt8) (bytes : List UInt8) : List UInt8 :=
  let parts := extent.parts ending bytes
  (parts.drop (if extent.others then extent.count else parts.length - extent.count)).flatten

/-- The factors that letters behind a number stand for. -/
def sizeFactor? (text : List Char) : Option Nat :=
  let power (letter : Char) : Option Nat :=
    (["K", "M", "G", "T", "P", "E"].idxOf? letter.toString).map (· + 1)
  match text with
  | [] => some 1
  | ['b'] => some 512
  | ['k'] => some 1024
  | ['k', 'B'] => some 1000
  | [letter] | [letter, 'i', 'B'] => (power letter).map (Nat.pow 1024)
  | [letter, 'B'] => (power letter).map (Nat.pow 1000)
  | _ => none

/-- A number with a factor behind it. -/
def sized? (text : List Char) : Option Nat :=
  let digits := text.takeWhile Text.Decimal.isDigit
  if digits = [] then none
  else (sizeFactor? (text.drop digits.length)).map (Text.Decimal.value digits * ·)

/-- How much to take, as a text says. At the beginning, a dash says how much is left
out; at the end, a plus sign says what is the first that is taken. -/
def extentOf (side : Side) (unit : Portion) (text : String) : Except String Extent :=
  let (sign, digits) := match text.toList with
    | '-' :: digits => (some '-', digits)
    | '+' :: digits => (some '+', digits)
    | digits => (none, digits)
  match sized? digits with
  | some count =>
    match side with
    | .beginning => .ok ⟨unit, count, sign = some '-'⟩
    | .ending =>
      .ok (if sign = some '+' then ⟨unit, count - 1, true⟩ else ⟨unit, count, false⟩)
  | none =>
    let what := match unit with
      | .bytes => "bytes"
      | .lines => "lines"
    let shown := if sign = some '-' then String.ofList digits else text
    .error s!"invalid number of {what}: '{shown}'"

/-- An old way to say how much: a number behind a sign, perhaps with the letter of what is
counted. -/
def modernCount (side : Side) : List String → Except String (List String)
  | first :: rest =>
    let modern (sign : String) (chars : List Char) : Except String (List String) :=
      let digits := chars.takeWhile Text.Decimal.isDigit
      let count := sign ++ String.ofList digits
      match digits, chars.drop digits.length with
      | [], _ => .ok (first :: rest)
      | _, [] | _, ['l'] => .ok ("-n" :: count :: rest)
      | _, ['c'] => .ok ("-c" :: count :: rest)
      | _, ['q'] => .ok ("-q" :: "-n" :: count :: rest)
      | _, ['v'] => .ok ("-v" :: "-n" :: count :: rest)
      | _, c :: _ =>
        if side = .beginning then .error s!"invalid trailing option -- {c}" else .ok (first :: rest)
    match side, first.toList with
    | _, '-' :: chars => modern "" chars
    | .ending, '+' :: chars => if rest.length ≤ 1 then modern "+" chars else .ok (first :: rest)
    | _, _ => .ok (first :: rest)
  | [] => .ok []

/-- How much to take, as the options say. -/
def extent? (side : Side) (options : Options) : Except String Extent :=
  match (options.chosen.filter fun entry => entry.1 = 'c' || entry.1 = 'n').getLast? with
  | none => .ok ⟨.lines, 10, false⟩
  | some (letter, text) => extentOf side (if letter = 'c' then .bytes else .lines) text

/-- An input as it is called in complaints. -/
def inputName (path : String) : String := if path = "-" then "standard input" else path

/-- What is said of a file of which no part can be read. -/
def partComplaint : Complaint := fun path error =>
  let name := inputName path
  if error = .isADirectory then s!"error reading '{name}': {error.reason}"
  else s!"cannot open '{name}' for reading: {error.reason}"

/-- The options of printing parts. -/
def partGrammar : Grammar where
  flags := "qvzfF"
  valued := "cns"
  long := [("bytes", 'c'), ("lines", 'n'), ("quiet", 'q'), ("silent", 'q'), ("verbose", 'v'),
    ("zero-terminated", 'z')]

/-- Prints a part of each input, under its name if there are several. What is not taken
of a file that is the standard input is left to others. -/
def parts (side : Side)
    (take : Extent → (ending : UInt8) → List UInt8 → List UInt8 → Run (List UInt8)) : Utility :=
  fun speaker arguments => do
    let body (speaker : String) (options : Options) : Run Nat := do
      match extent? side options with
      | .error message =>
        complain speaker message
        return 1
      | .ok extent =>
        let operands := if options.operands = [] then ["-"] else options.operands
        let named := options.has 'v' || (1 < operands.length && !options.has 'q')
        let ending : UInt8 := if options.has 'z' then 0 else 10
        let mut first := true
        let mut status := 0
        for path in operands do
          let input ← inputOf path
          let isThere := match input with
            | .ok _ => true
            | .error error => error = .isADirectory
          if named && isThere then
            let gap := if first then "" else "\n"
            let _ ← print s!"{gap}==> {inputName path} <==\n"
            first := false
          match input with
          | .error error =>
            complain speaker (partComplaint path error)
            status := 1
          | .ok (bytes, forever) =>
            let taken ← take extent ending bytes forever
            if side = .beginning && path = "-" then
              match ← channel? 0 with
              | some (_, .file ..) => giveBack 0 (bytes.drop taken.length)
              | _ => pure ()
            let _ ← write 1 taken
        if side = .ending && (options.has 'f' || options.has 'F') then hang
        return status
    match modernCount side arguments with
    | .error message => misuse speaker message 1
    | .ok arguments => withOptions partGrammar 1 body speaker arguments

/-- Prints the beginning of inputs. -/
def head : Utility := parts .beginning fun extent ending bytes forever =>
  return extent.first ending bytes forever

/-- Prints the end of inputs. -/
def tail : Utility := parts .ending fun extent ending bytes forever =>
  if forever ≠ [] then hang else return extent.last ending bytes

/-! ## Several outputs -/

/-- The options of copying to files. -/
def teeGrammar : Grammar where
  flags := "aip"
  optional := "#"
  long := [("append", 'a'), ("ignore-interrupts", 'i'), ("output-error", '#')]

/-- Copies the input to the output and to files. -/
def tee : Utility := withOptions teeGrammar 1 fun speaker options => do
  let (bytes, status) ← wholeInput (fun _ error => s!"read error: {error.reason}") speaker []
  let _ ← write 1 bytes
  let written ← forEach options.operands fun path => do
    match ← writeTo path (options.has 'a') bytes with
    | .ok _ => return 0
    | .error error => refused speaker path error
  return max status written

/-- Prints one line again and again. -/
def yes : Utility := fun _ arguments => do
  let line := if arguments = [] then "y" else " ".intercalate arguments
  writeForever (line ++ "\n").toUTF8.toList
  return 0

end StepGraph.Shell.Utility
