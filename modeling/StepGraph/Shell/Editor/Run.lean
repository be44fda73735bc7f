import StepGraph.Shell.Editor.Basic
import StepGraph.Text.Decimal
import StepGraph.Shell.Octet

/-! Editing lines by a script. The script runs once for each line that is taken into the
space in which it works; what is in the space at its end is printed. -/
namespace StepGraph.Shell.Editor

/-- A line of the input. -/
structure Line where
  text : List Char
  /-- Whether the end of the line is there; only the last line of a file can lack it. -/
  ended : Bool
  /-- The file from which it comes. -/
  file : String

/-- What has been written to one place. -/
structure Output where
  /-- The latest first. -/
  chunks : List (List Char)
  /-- Whether the end of the last line has been left out. It is made up for when more is
  written. -/
  owesEnd : Bool

namespace Output

def empty : Output := ⟨[], false⟩

/-- Writes characters as they are. -/
def add (output : Output) (chars : List Char) : Output :=
  let owed := if output.owesEnd then [['\n']] else []
  ⟨chars :: (owed ++ output.chunks), false⟩

/-- Writes a line. -/
def addLine (output : Output) (line : List Char) (ended : Bool) : Output :=
  let output := output.add line
  if ended then output.add ['\n'] else { output with owesEnd := true }

/-- All that has been written. -/
def text (output : Output) : List Char := output.chunks.reverse.flatten

end Output

/-- What is printed when a line has been dealt with. -/
inductive Queued
  | text (chars : List Char)
  | file (path : String)
  | line (chars : List Char)

/-- How lines are edited. -/
structure Settings where
  quiet : Bool
  /-- Whether each file has a last line of its own. -/
  separate : Bool
  /-- The width to which lines are folded that are listed. -/
  width : Nat
  /-- What files hold. -/
  read : String → Option (List Char)

/-- How far editing has come. -/
structure Editing where
  space : List Char
  /-- Whether the line in the space had an end. -/
  ended : Bool
  held : List Char
  number : Nat
  file : String
  rest : List Line
  queue : List Queued
  /-- Whether something has been replaced since a line was taken. -/
  replaced : Bool
  /-- What has been written, by the names of the places; the first is the output. -/
  outputs : List (String × Output)
  /-- The instructions whose ranges are open, with the lines where these end. -/
  ranges : List (Nat × Option Nat)
  /-- The pattern that was used last. -/
  last : Option Pattern
  /-- What is left of files that are read line by line. -/
  readers : List (String × List (List Char))

/-- Why editing stops. -/
inductive Stop
  | ended (status : Nat)
  | noPattern
  | unknownLabel (name : String)
  /-- It would never stop by itself. -/
  | endless

/-- Edits. -/
abbrev Edit := ReaderT Settings (ExceptT Stop (StateM Editing))

/-- What becomes of a line when the script has run. -/
inductive Outcome
  | printed
  | dropped
  /-- The script runs again on what is left of the line. -/
  | again

/-- The place to which lines are printed. -/
def standardOutput : String := "/dev/stdout"

namespace Edit

/-- Changes what has been written to a place. -/
def writeTo (path : String) (change : Output → Output) : Edit Unit :=
  modify fun editing =>
    { editing with
      outputs :=
        if (editing.outputs.lookup path).isSome then
          editing.outputs.map fun entry =>
            if entry.1 = path then (path, change entry.2) else entry
        else editing.outputs ++ [(path, change .empty)] }

/-- Prints a line. -/
def printLine (line : List Char) (ended : Bool) : Edit Unit :=
  writeTo standardOutput (·.addLine line ended)

/-- Prints what is in the space. -/
def printSpace : Edit Unit := do printLine (← get).space (← get).ended

/-- Prints what is in the space unless lines are not printed by default. -/
def printByDefault : Edit Unit := do
  if !(← read).quiet then printSpace

/-- Prints what has been put off until the line was dealt with. -/
def flush : Edit Unit := do
  for queued in (← get).queue do
    match queued with
    | .text chars => writeTo standardOutput (·.add chars)
    | .line chars => printLine chars true
    | .file path =>
      match (← read).read path with
      | some chars => writeTo standardOutput (·.add chars)
      | none => pure ()
  modify fun editing => { editing with queue := [] }

/-- Whether the line in the space is the last one. -/
def atLast : Edit Bool := do
  let editing ← get
  match editing.rest with
  | [] => return true
  | next :: _ => return (← read).separate && next.file ≠ editing.file

/-- Takes the next line, and does something with it and the space. -/
def takeLine (combine : (space line : List Char) → List Char) : Edit Bool := do
  flush
  let editing ← get
  match editing.rest with
  | [] => return false
  | next :: rest =>
    let restarts := (← read).separate && next.file ≠ editing.file
    set { editing with
      space := combine editing.space next.text, ended := next.ended, rest, file := next.file
      number := if restarts then 1 else editing.number + 1, replaced := false }
    return true

/-! ## Selecting lines -/

/-- Where a pattern matches in the space, if it does. -/
def find? (pattern : Pattern) (start : Nat) : Edit (Option (Subject × Match)) := do
  let editing ← get
  let pattern? := if pattern.regex.isSome then some pattern else editing.last
  match pattern?.bind fun pattern => pattern.regex.map (·, pattern.manner) with
  | none => throw .noPattern
  | some (regex, manner) =>
    modify fun editing => { editing with last := pattern? }
    let subject := regex.subject manner editing.space
    return (regex.find? subject start).map (subject, ·)

/-- Whether a line is the one that an address describes. -/
def fits (address : Address) : Edit Bool := do
  let number := (← get).number
  match address with
  | .line line => return number = line
  | .last => atLast
  | .matching pattern => return (← find? pattern 0).isSome
  | .every first step => return first ≤ number && (number - first) % step = 0

/-- Opens the range of an instruction, or closes it. -/
def setRange (index : Nat) (range : Option (Option Nat)) : Edit Unit :=
  modify fun editing =>
    let others := editing.ranges.filter (·.1 ≠ index)
    { editing with ranges := (range.map (index, ·)).toList ++ others }

/-- Opens the range of an instruction unless it ends on this line, and holds of the line. -/
def openRange (index : Nat) (last : RangeEnd) : Edit Unit := do
  let number := (← get).number
  let openTo (line : Nat) : Edit Unit := if number < line then setRange index (some (some line))
    else pure ()
  match last with
  | .address (.line line) => openTo line
  | .later count => openTo (number + count)
  | .multiple 0 => pure ()
  | .multiple factor => openTo ((number + factor - 1) / factor * factor)
  | .address _ => setRange index (some none)

/-- Whether the line is in the range of an instruction. -/
def inRange (index : Nat) (first : Option Address) (last : RangeEnd) : Edit Bool := do
  let number := (← get).number
  match (← get).ranges.lookup index with
  | some (some line) =>
    if line ≤ number then setRange index none
    return number ≤ line
  | some none =>
    match last with
    | .address address => if ← fits address then setRange index none
    | _ => pure ()
    return true
  | none =>
    match first with
    | none => return false
    | some address =>
      let begins ← fits address
      if begins then openRange index last
      return begins

/-- Whether an instruction applies to the line. -/
def selected (index : Nat) (instruction : Instruction) : Edit Bool := do
  let inside ← match instruction.selection with
    | .all => pure true
    | .one address => fits address
    | .range first last => inRange index first last
  return inside != instruction.negated

/-! ## Replacing -/

/-- How the case of what follows is changed: of all, and of the next character. -/
structure Casing where
  all : CaseChange
  next : CaseChange

/-- Changes the case of characters. -/
def Casing.apply (casing : Casing) (chars : List Char) : List Char × Casing :=
  let changed := match casing.all with
    | .upper => chars.map Char.toUpper
    | .lower => chars.map Char.toLower
    | _ => chars
  match changed with
  | [] => ([], casing)
  | c :: rest =>
    let first := match casing.next with
      | .nextUpper => c.toUpper
      | .nextLower => c.toLower
      | _ => c
    (first :: rest, { casing with next := .none })

/-- What a match is replaced by. -/
def replacementOf (parts : List Part) (subject : Subject) (found : Match) : List Char :=
  (parts.foldl (fun (done, casing) part =>
    let add (chars : List Char) : List (List Char) × Casing :=
      let (chars, casing) := casing.apply chars
      (chars :: done, casing)
    match part with
    | .text chars => add chars
    | .group number => add (found.group subject number)
    | .case .none => (done, ⟨.none, .none⟩)
    | .case .nextUpper => (done, { casing with next := .nextUpper })
    | .case .nextLower => (done, { casing with next := .nextLower })
    | .case change => (done, { casing with all := change })) ([], Casing.mk .none .none)).1.reverse.flatten

/-- Replaces matches from a place on, of which some have been counted; an empty match right
behind another counts for nothing. What is done so far is kept in reverse, and whether
anything was replaced. `fuel` bounds the matches. -/
def replaceFrom (substitution : Substitution) :
    (fuel : Nat) → (start : Nat) → (before : Option Nat) → (count : Nat) → (done : List (List Char)) →
      (any : Bool) → Edit (List (List Char) × Bool)
  | 0, _, _, _, done, any => return (done, any)
  | fuel + 1, start, before, count, done, any => do
    let space := (← get).space
    let rest (from1 : Nat) : List Char := space.drop from1
    if space.length < start then return (done, any)
    match ← find? substitution.pattern start with
    | none => return (rest start :: done, any)
    | some (subject, found) =>
      let between (first last : Nat) : List Char := (subject.text.extract first last).toList
      let isEmpty := found.start = found.stop
      if isEmpty && before = some found.start then
        replaceFrom substitution fuel (found.stop + 1) none count
          (between start (found.stop + 1) :: done) any
      else
        let counts := substitution.first ≤ count + 1
        let new := if counts then replacementOf substitution.replacement subject found
          else found.text subject
        let done := new :: between start found.start :: done
        if counts && !substitution.all then return (rest found.stop :: done, true)
        else if isEmpty then
          replaceFrom substitution fuel (found.stop + 1) none (count + 1)
            (between found.stop (found.stop + 1) :: done) (any || counts)
        else
          replaceFrom substitution fuel found.stop (some found.stop) (count + 1) done
            (any || counts)

/-- Runs a substitution. -/
def substitute (substitution : Substitution) : Edit Unit := do
  let (done, any) ← replaceFrom substitution ((← get).space.length + 2) 0 none 0 [] false
  if any then
    modify fun editing =>
      { editing with space := done.reverse.flatten, replaced := true }
    if substitution.prints then printSpace
    match substitution.file with
    | some path =>
      let editing ← get
      writeTo path (·.addLine editing.space editing.ended)
    | none => pure ()

/-! ## Other instructions -/

/-- A character as it is listed. -/
def listed (c : Char) : List Char :=
  match c with
  | '\\' => ['\\', '\\']
  | '\x07' => ['\\', 'a']
  | '\x08' => ['\\', 'b']
  | '\x0c' => ['\\', 'f']
  | '\n' => ['\\', 'n']
  | '\r' => ['\\', 'r']
  | '\t' => ['\\', 't']
  | '\x0b' => ['\\', 'v']
  | c =>
    if ' ' ≤ c && c ≤ '~' then [c]
    else
      let digits := Nat.toDigits 8 c.toNat
      '\\' :: (List.replicate (3 - digits.length) '0' ++ digits)

/-- The characters of a line as they are listed, folded to a width unless that is zero. -/
def listing (width : Nat) (chars : List Char) : List Char :=
  (chars.foldl (fun (done, column) c =>
    let shown := listed c
    if 1 < width && width - 1 < column + shown.length then
      (shown :: ['\\', '\n'] :: done, shown.length)
    else (shown :: done, column + shown.length)) ([], 0)).1.reverse.flatten ++ ['$']

/-- The part of a text before the end of its first line. -/
def firstLine (chars : List Char) : List Char := chars.takeWhile (· ≠ '\n')

/-- Takes a line off a file that is read line by line. -/
def lineOf (path : String) : Edit (Option (List Char)) := do
  let left ← match (← get).readers.lookup path with
    | some left => pure left
    | none =>
      let chars := ((← read).read path).getD []
      let lines := chars.splitOn '\n'
      pure (if lines.getLast? = some [] then lines.dropLast else lines)
  modify fun editing =>
    { editing with
      readers := (path, left.drop 1) :: editing.readers.filter (·.1 ≠ path) }
  return left.head?

/-- Puts something off until the line has been dealt with. -/
def enqueue (queued : Queued) : Edit Unit :=
  modify fun editing => { editing with queue := editing.queue ++ [queued] }

/-- Changes the space. -/
def changeSpace (change : Editing → List Char) : Edit Unit :=
  modify fun editing => { editing with space := change editing }

/-- Changes what is held. -/
def changeHeld (change : Editing → List Char) : Edit Unit :=
  modify fun editing => { editing with held := change editing }

/-- What happens behind an instruction. -/
inductive Step
  | next
  | goTo (index : Nat)
  | finish (outcome : Outcome)

/-- Where a jump goes. -/
def destination (script : Script) (label : String) : Edit Step := do
  if label = "" then return .finish .printed
  match script.labels.lookup label with
  | some index => return .goTo index
  | none => throw (.unknownLabel label)

/-- Does what an instruction says that applies to the line. -/
def perform (script : Script) (index : Nat) (action : Action) : Edit Step := do
  let editing ← get
  match action with
  | .block _ | .mark => return .next
  | .print => printSpace; return .next
  | .printFirst => printLine (firstLine editing.space) true; return .next
  | .delete => return .finish .dropped
  | .deleteFirst =>
    match editing.space.dropWhile (· ≠ '\n') with
    | [] => return .finish .dropped
    | _ :: rest =>
      changeSpace fun _ => rest
      return .finish .again
  | .next =>
    if editing.rest = [] then return .finish .printed
    printByDefault
    let _ ← takeLine fun _ line => line
    return .next
  | .appendNext =>
    if editing.rest = [] then return .finish .printed
    let _ ← takeLine fun space line => space ++ '\n' :: line
    return .next
  | .hold => changeHeld Editing.space; return .next
  | .holdMore => changeHeld (fun editing => editing.held ++ '\n' :: editing.space); return .next
  | .get => changeSpace Editing.held; return .next
  | .getMore => changeSpace (fun editing => editing.space ++ '\n' :: editing.held); return .next
  | .exchange =>
    set { editing with space := editing.held, held := editing.space }
    return .next
  | .insert text => writeTo standardOutput (·.add text); return .next
  | .append text => enqueue (.text text); return .next
  | .change text =>
    if (editing.ranges.lookup index).isNone then writeTo standardOutput (·.add text)
    return .finish .dropped
  | .number =>
    writeTo standardOutput (·.add (Text.Decimal.text editing.number ++ "\n").toList)
    return .next
  | .fileName => writeTo standardOutput (·.add (editing.file ++ "\n").toList); return .next
  | .list width =>
    let width := width.getD (← read).width
    printLine (listing width editing.space) true
    return .next
  | .quit silently status =>
    if !silently then
      printByDefault
      flush
    throw (.ended status)
  | .readFile path => enqueue (.file path); return .next
  | .readLine path =>
    match ← lineOf path with
    | some line => enqueue (.line line)
    | none => pure ()
    return .next
  | .write path => writeTo path (·.addLine editing.space editing.ended); return .next
  | .writeFirst path => writeTo path (·.addLine (firstLine editing.space) true); return .next
  | .substitute substitution => substitute substitution; return .next
  | .translate pairs =>
    changeSpace fun editing => editing.space.map fun c => (pairs.lookup c).getD c
    return .next
  | .jump .always label => destination script label
  | .jump .ifReplaced label =>
    if !editing.replaced then return .next
    set { editing with replaced := false }
    destination script label
  | .jump .unlessReplaced label =>
    if editing.replaced then
      set { editing with replaced := false }
      return .next
    destination script label
  | .clear => changeSpace fun _ => []; return .next

/-- Runs the instructions from a place on; `fuel` bounds how many are run. -/
def runFrom (script : Script) (instructions : Array Instruction) :
    (fuel : Nat) → (index : Nat) → Edit Outcome
  | 0, _ => throw .endless
  | fuel + 1, index => do
    match instructions[index]? with
    | none => return .printed
    | some instruction =>
      let isSelected ← selected index instruction
      match instruction.action, isSelected with
      | .block ending, false => runFrom script instructions fuel ending
      | _, false => runFrom script instructions fuel (index + 1)
      | action, true =>
        match ← perform script index action with
        | .next => runFrom script instructions fuel (index + 1)
        | .goTo index => runFrom script instructions fuel index
        | .finish outcome => return outcome

/-- So many instructions are run for one line at most. -/
def longest : Nat := 100000

/-- Deals with the lines that are left; `fuel` bounds how often the script runs. -/
def lines (script : Script) : (fuel : Nat) → (again : Bool) → Edit Unit
  | 0, _ => throw .endless
  | fuel + 1, again => do
    let goesOn ← if again then pure true else takeLine fun _ line => line
    if goesOn then
      let outcome ← runFrom script script.instructions.toArray longest 0
      if outcome matches .printed then printByDefault
      flush
      lines script fuel (outcome matches .again)

end Edit

/-- The places to which a script writes. -/
def Script.files (script : Script) : List String :=
  script.instructions.filterMap fun instruction =>
    match instruction.action with
    | .write path | .writeFirst path => some path
    | .substitute substitution => substitution.file
    | _ => none

/-- The labels to which a script goes and which it does not have. -/
def Script.missingLabels (script : Script) : List String :=
  script.instructions.filterMap fun instruction =>
    match instruction.action with
    | .jump _ label =>
      if label = "" || (script.labels.lookup label).isSome then none else some label
    | _ => none

/-- The state before any line is edited. -/
def Editing.start (script : Script) (lines : List Line) : Editing where
  space := []
  ended := true
  held := []
  number := 0
  file := (lines.head?.map Line.file).getD "-"
  rest := lines
  queue := []
  replaced := false
  outputs := (standardOutput :: script.files).map (·, .empty)
  ranges := script.instructions.zipIdx.filterMap fun (instruction, index) =>
    match instruction.selection with
    | .range none _ => some (index, none)
    | _ => none
  last := none
  readers := []

/-- Edits lines. -/
def edit (settings : Settings) (script : Script) (editing : Editing) : Option Stop × Editing :=
  -- each run of the script takes a line, or a line off the space
  let fuel := editing.rest.foldl (fun total line => total + line.text.length + 1) 1000
  match ((Edit.lines script fuel false).run settings).run.run editing with
  | (.ok _, editing) => (none, editing)
  | (.error stop, editing) => (some stop, editing)

end StepGraph.Shell.Editor
