import StepGraph.Shell.Utility.Options

/-! Changing who may read, write and run files. A mode is written as an octal number
or as clauses: for whom, whether permissions are given, taken or set, and which. -/
namespace StepGraph.Shell.Utility
open Run

/-- The number that octal digits denote. -/
def octalNumber? (text : String) : Option Nat :=
  let cs := text.toList
  if cs ≠ [] && cs.all fun c => '0' ≤ c && c ≤ '7' then
    some (cs.foldl (fun total c => total * 8 + (c.toNat - 48)) 0)
  else none

/-- What a clause does with permissions. -/
inductive ModeAction
  | give
  | take
  | set

/-- Which permissions a clause is about: some letters, or those that one of the three
parties has. -/
inductive ModeSource
  | letters (letters : List Char)
  | party (shift : Nat)

/-- One change of a mode. -/
inductive ModeChange
  | number (bits : Nat)
  /-- The parties are given by the places of their bits; without parties the change is
  for all of them, except for what new files do not get. -/
  | clause (parties : List Nat) (action : ModeAction) (source : ModeSource)

namespace ModeChange

/-- The places of the bits of the parties that a letter stands for. -/
def partiesOf : Char → Option (List Nat)
  | 'u' => some [6]
  | 'g' => some [3]
  | 'o' => some [0]
  | 'a' => some [6, 3, 0]
  | _ => none

/-- Whether a letter stands for a permission. -/
def isPermission (c : Char) : Bool := "rwxXst".toList.contains c

/-- Reads the actions of a clause; `fuel` bounds their number. -/
def actions : (fuel : Nat) → (parties : List Nat) → List Char → Option (List ModeChange)
  | 0, _, _ => none
  | _, _, [] => some []
  | fuel + 1, parties, c :: rest =>
    let action? : Option ModeAction := match c with
      | '+' => some .give
      | '-' => some .take
      | '=' => some .set
      | _ => none
    match action?, rest with
    | none, _ => none
    | some action, party :: after =>
      match (if isPermission party then none else partiesOf party) with
      | some [shift] =>
        (actions fuel parties after).map (.clause parties action (.party shift) :: ·)
      | _ =>
        let letters := rest.takeWhile isPermission
        (actions fuel parties (rest.drop letters.length)).map
          (.clause parties action (.letters letters) :: ·)
    | some action, [] => some [.clause parties action (.letters [])]

/-- Splits at the commas. -/
def clauses : List Char → List (List Char)
  | [] => [[]]
  | ',' :: rest => [] :: clauses rest
  | c :: rest =>
    match clauses rest with
    | [] => [[c]]
    | first :: others => (c :: first) :: others

/-- Reads a clause. -/
def clause? (text : List Char) : Option (List ModeChange) :=
  let who := text.takeWhile fun c => (partiesOf c).isSome
  match text.drop who.length with
  | [] => none
  | rest => actions (rest.length + 1) (who.filterMap partiesOf).flatten rest

/-- Reads a mode. -/
def ofText? (text : String) : Option (List ModeChange) :=
  match octalNumber? text with
  | some bits => if bits ≤ 0o7777 then some [.number bits] else none
  | none => ((clauses text.toList).mapM clause?).map List.flatten

/-- The bits that letters stand for at the place of a party. -/
def bitsOf (bits : Nat) (shift : Nat) (letters : List Char) : Nat :=
  letters.foldl (fun total c => total ||| match c with
    | 'r' => 4 <<< shift
    | 'w' => 2 <<< shift
    | 'x' => 1 <<< shift
    | 'X' => if bits &&& 0o111 ≠ 0 then 1 <<< shift else 0
    | 's' => if shift = 6 then 0o4000 else if shift = 3 then 0o2000 else 0
    | 't' => 0o1000
    | _ => 0) 0

/-- The mode after a change; `mask` holds what new files do not get. -/
def apply (mask : Nat) (change : ModeChange) (bits : Nat) : Nat :=
  match change with
  | .number bits => bits
  | .clause parties action source =>
    let chosen := if parties = [] then [6, 3, 0] else parties
    let kept := if parties = [] then 0o7777 - (mask &&& 0o777) else 0o7777
    let wanted := chosen.foldl (fun total shift => total ||| match source with
      | .letters letters => bitsOf bits shift letters
      | .party other => ((bits >>> other) &&& 7) <<< shift) 0 &&& kept
    let affected := chosen.foldl (fun total shift => total ||| (7 <<< shift)) 0 &&& kept
    match action with
    | .give => bits ||| wanted
    | .take => bits &&& (0o7777 - wanted)
    | .set => (bits &&& (0o7777 - affected)) ||| wanted

end ModeChange

/-- The nine letters of a mode. -/
def modeLetters (bits : Nat) : String :=
  let party (shift special : Nat) (both alone : Char) : String :=
    let own := bits >>> shift
    let last := match decide (bits &&& special ≠ 0), decide (own &&& 1 ≠ 0) with
      | true, true => both
      | true, false => alone
      | false, true => 'x'
      | false, false => '-'
    (if own &&& 4 ≠ 0 then "r" else "-") ++ (if own &&& 2 ≠ 0 then "w" else "-") ++ last.toString
  party 6 0o4000 's' 'S' ++ party 3 0o2000 's' 'S' ++ party 0 0o1000 't' 'T'

/-- Four octal digits of a mode. -/
def modeDigits (bits : Nat) : String :=
  let digits := Nat.toDigits 8 bits
  String.ofList (List.replicate (4 - digits.length) '0' ++ digits)

/-- Whether an argument that begins with a dash is a mode and no options. -/
def isModeArgument (argument : String) : Bool :=
  match argument.toList with
  | '-' :: c :: _ => "rwxXstugo0123456789,=+".toList.contains c
  | _ => false

/-- The locations at a path and, if asked to, below it. -/
def locationsBelow (tree : FileSystem) (location : Location) : List Location :=
  (tree.nodes.map Prod.fst).filter fun other => location.isPrefixOf other && other ≠ location

/-- Changes the modes of files. -/
def chmod : Utility := fun speaker arguments => do
  let mode? := arguments.find? isModeArgument
  let arguments := match mode? with
    | some mode => arguments.erase mode
    | none => arguments
  let grammar : Grammar := {
    flags := "Rvcf", valued := "F"
    long := [("recursive", 'R'), ("verbose", 'v'), ("changes", 'c'), ("silent", 'f'),
      ("quiet", 'f'), ("reference", 'F')] }
  let body (speaker : String) (options : Options) : Run Nat := do
    let given := mode?.toList ++ options.operands
    let reference? ← match options.value? 'F' with
      | none => pure none
      | some path =>
        match (← files).locate path with
        | .ok (_, .file _ mode) => pure (some mode.bits)
        | _ => pure (some 0o755)
    match reference?, given with
    | _, [] => misuse speaker "missing operand" 1
    | none, [mode] => misuse speaker s!"missing operand after '{mode}'" 1
    | reference?, first :: rest =>
      let (changes?, paths) := match reference? with
        | some bits => (some [ModeChange.number bits], given)
        | none => (ModeChange.ofText? first, rest)
      match changes? with
      | none => misuse speaker s!"invalid mode: '{first}'" 1
      | some changes =>
        let change (path : String) (location : Location) : Run Unit := do
          match (← files).get? location with
          | some (.file content mode) =>
            let mask := (← process).mask
            let bits := changes.foldl (fun bits change => change.apply mask bits) mode.bits
            setFiles ((← files).put location (.file content ⟨bits⟩))
            let words (bits : Nat) : String := s!"{modeDigits bits} ({modeLetters bits})"
            if bits ≠ mode.bits && (options.has 'v' || options.has 'c') then
              let _ ← print s!"mode of '{path}' changed from {words mode.bits} to {words bits}\n"
            else if options.has 'v' then
              let _ ← print s!"mode of '{path}' retained as {words bits}\n"
          | _ => pure ()
        forEach paths fun path => do
          match (← files).locate path with
          | .error error =>
            if !options.has 'f' then
              complain speaker s!"cannot access '{path}': {error.reason}"
            return 1
          | .ok (location, _) =>
            change path location
            if options.has 'R' then
              for below in locationsBelow (← files) location do
                let names := below.drop location.length
                change (path ++ "/" ++ "/".intercalate names) below
            return 0
  withOptions grammar 1 body speaker arguments

end StepGraph.Shell.Utility
