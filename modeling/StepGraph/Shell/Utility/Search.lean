import StepGraph.Shell.Descent
import StepGraph.Shell.Pattern
import StepGraph.Shell.Regex.Parser
import StepGraph.Shell.Utility.Streams
import StepGraph.Shell.Octet

/-! Searching lines. Several patterns may be looked for at once; of what they match in a
line, the part that begins first is found, and of those the longest. -/
namespace StepGraph.Shell.Utility
open Run

/-! ## Patterns -/

/-- What a match in a line has to be. -/
inductive Fit
  | anything
  | words
  | line
  deriving DecidableEq

/-- What is looked for. -/
structure Sought where
  patterns : List Regex
  manner : Manner
  fit : Fit
  /-- Whether the lines are wanted in which nothing is found. -/
  inverted : Bool

namespace Sought

/-- A line as it is searched. -/
def subject (sought : Sought) (line : List Char) : Subject :=
  ⟨line.toArray, sought.manner, sought.patterns.any Regex.refers⟩

/-- Whether a part of a line may be a match. -/
def accepts (sought : Sought) (subject : Subject) (start stop : Nat) : Bool :=
  let isWord (place : Nat) : Bool := (subject.text[place]?.map Subject.isWordChar).getD false
  match sought.fit with
  | .anything => true
  | .words => !(0 < start && isWord (start - 1)) && !isWord stop
  | .line => start = 0 && stop = subject.text.size

/-- Where the longest match ends that begins at a place. -/
def longest? (sought : Sought) (subject : Subject) (start : Nat) : Option Nat :=
  let ends := sought.patterns.flatMap fun regex => (subject.ways regex ⟨start, []⟩).map (·.position)
  (ends.filter (sought.accepts subject start)).max?

/-- The first match that begins among so many places. -/
def find? (sought : Sought) (subject : Subject) : (places : Nat) → (start : Nat) → Option (Nat × Nat)
  | 0, _ => none
  | places + 1, start =>
    match sought.longest? subject start with
    | some stop => some (start, stop)
    | none => sought.find? subject places (start + 1)

/-- Whether a line is wanted. -/
def wants (sought : Sought) (line : List Char) : Bool :=
  (sought.find? (sought.subject line) (line.length + 1) 0).isSome != sought.inverted

/-- All matches in a line that are not empty, from a place on; `fuel` bounds their
number. -/
def findAll (sought : Sought) (subject : Subject) : (fuel : Nat) → (start : Nat) → List (Nat × Nat)
  | 0, _ => []
  | fuel + 1, place =>
    match sought.find? subject (subject.text.size + 1 - place) place with
    | none => []
    | some (start, stop) =>
      if start = stop then sought.findAll subject fuel (stop + 1)
      else (start, stop) :: sought.findAll subject fuel stop

end Sought

/-! ## Printing -/

/-- How lines are shown that were found. -/
structure Showing where
  label : Option String
  /-- What stands behind the label, if it is not what stands behind the number. -/
  behindLabel : Option String
  numbered : Bool
  withOffset : Bool
  onlyMatches : Bool
  /-- How many lines around one that was found are shown as well. -/
  before : Nat
  after : Nat
  /-- Whether groups of lines are set apart. -/
  grouped : Bool

/-- A line of an input: its number, where it begins, and its characters. -/
structure Numbered where
  number : Nat
  offset : Nat
  text : List Char

/-- The lines of an input. -/
def numberedLines (bytes : List UInt8) : List Numbered :=
  let texts := (lines bytes).map Text.Octet.ofBytes
  (texts.zipIdx 1).foldl (fun (done, offset) (text, number) =>
    (⟨number, offset, text⟩ :: done, offset + text.length + 1)) ([], 0) |>.1.reverse

/-- What stands in front of a line or of a match in it. -/
def Showing.lead (showing : Showing) (line : Numbered) (place : Nat) (separator : String) : String :=
  let label := (showing.label.map (· ++ showing.behindLabel.getD separator)).getD ""
  let number := if showing.numbered then Text.Decimal.text line.number ++ separator else ""
  let offset :=
    if showing.withOffset then Text.Decimal.text (line.offset + place) ++ separator else ""
  label ++ number ++ offset

/-- A line as it is shown. -/
def Showing.line (showing : Showing) (sought : Sought) (line : Numbered) (found : Bool) :
    List UInt8 :=
  if showing.onlyMatches then
    if !found || sought.inverted then []
    else
      let matching := sought.findAll (sought.subject line.text) (line.text.length + 1) 0
      matching.flatMap fun (start, stop) =>
        (showing.lead line start ":").toUTF8.toList ++
          Text.Octet.toBytes ((line.text.drop start).take (stop - start)) ++ [10]
  else
    (showing.lead line 0 (if found then ":" else "-")).toUTF8.toList ++
      Text.Octet.toBytes line.text ++ [10]

/-- How far printing has come. -/
structure Shown where
  /-- Whether any line was shown, of this input or of one before. -/
  any : Bool
  /-- The number of the last line of this input that was shown. -/
  last : Nat
  output : List UInt8

/-- Shows a line that was found with lines around it. -/
def Showing.add (showing : Showing) (sought : Sought) (all : List Numbered) (isFound : Nat → Bool)
    (shown : Shown) (line : Numbered) : Shown :=
  let first := max (shown.last + 1) (line.number - showing.before)
  let last := line.number + showing.after
  let group := (all.drop (first - 1)).take (last + 1 - first)
  -- a line that was found itself comes with lines of its own
  let group := group.takeWhile fun other => other.number ≤ line.number || !isFound other.number
  let gap := showing.grouped && shown.any && (shown.last + 1 < first || shown.last = 0)
  let text := group.flatMap fun other => showing.line sought other (other.number = line.number)
  { any := true
    last := (group.getLast?.map Numbered.number).getD shown.last
    output := shown.output ++ (if gap then "--\n".toUTF8.toList else []) ++ text }

/-! ## The utility -/

/-- The options of searching. -/
def searchGrammar : Grammar where
  flags := "EFGiyvwxcnlLqshHobarRzUIZ"
  valued := "efmABC%&@"
  optional := "#"
  long := [("extended-regexp", 'E'), ("fixed-strings", 'F'), ("basic-regexp", 'G'),
    ("regexp", 'e'), ("file", 'f'), ("ignore-case", 'i'), ("invert-match", 'v'),
    ("word-regexp", 'w'), ("line-regexp", 'x'), ("count", 'c'), ("line-number", 'n'),
    ("files-with-matches", 'l'), ("files-without-match", 'L'), ("quiet", 'q'), ("silent", 'q'),
    ("no-messages", 's'), ("no-filename", 'h'), ("with-filename", 'H'), ("only-matching", 'o'),
    ("byte-offset", 'b'), ("text", 'a'), ("recursive", 'r'), ("dereference-recursive", 'R'),
    ("null-data", 'z'), ("null", 'Z'), ("binary", 'U'), ("max-count", 'm'), ("after-context", 'A'),
    ("before-context", 'B'), ("context", 'C'), ("include", '%'), ("exclude", '&'),
    ("exclude-dir", '@'), ("color", '#'), ("colour", '#')]
  usage := "\nUsage: grep [OPTION]... PATTERNS [FILE]..."

/-- The lines of the patterns that the options and operands give, and the operands that
are left. -/
def patternTexts (speaker : String) (options : Options) :
    Run (Except Nat (List (List Char) × List String)) := do
  let mut given : List (List Char) := []
  let mut any := false
  for (letter, value) in options.chosen do
    if letter = 'e' then
      given := given ++ split (Text.Octet.ofText value)
      any := true
    else if letter = 'f' then
      any := true
      match ← if value = "-" then takeInput 0 else inputAt value with
      | .error error => return .error (← refused speaker value error).succ
      | .ok (bytes, _) => given := given ++ (lines bytes).map Text.Octet.ofBytes
  if any then return .ok (given, options.operands)
  match options.operands with
  | [] =>
    let _ ← write 2 ("Usage: grep [OPTION]... PATTERNS [FILE]...\n" ++
      "Try 'grep --help' for more information.\n").toUTF8.toList
    return .error 2
  | pattern :: files => return .ok (split (Text.Octet.ofText pattern), files)
where
  split (text : List Char) : List (List Char) := text.splitOn '\n'

/-- What is looked for, as the options say, and what is odd about it. -/
def soughtOf (options : Options) (texts : List (List Char)) :
    Except RegexError (Sought × List RegexNote) := do
  let kind := (options.chosen.filter fun entry => "EFG".toList.contains entry.1).getLast?.map Prod.fst
  let dialect : Dialect := { extended := kind = some 'E' }
  let patterns ← texts.mapM fun text =>
    if kind = some 'F' then .ok (Regex.literal text, []) else Regex.parseNoting dialect text
  let sought : Sought := {
    patterns := patterns.map Prod.fst
    manner := { ignoresCase := options.has 'i' || options.has 'y' }
    fit := if options.has 'x' then .line else if options.has 'w' then .words else .anything
    inverted := options.has 'v' }
  return (sought, patterns.flatMap Prod.snd)

/-- The paths that are searched: those of files, and with `-r` those of the files below
directories. Without paths, that is the standard input or the directory itself. -/
def searchedPaths (options : Options) (operands : List String) : Run (List String × Bool) := do
  let recursive := options.has 'r' || options.has 'R'
  if !recursive then return (if operands = [] then ["-"] else operands, 1 < operands.length)
  let tree ← files
  let fits (letter : Char) (name : String) : Bool :=
    options.chosen.any fun (found, value) =>
      found = letter && Pattern.covers (Pattern.ofGlyphs (value.toList.map (⟨·, false⟩))) name.toList
  let wanted (names : Location) : Bool :=
    let name := names.getLastD ""
    (!options.has '%' || fits '%' name) && !fits '&' name && !names.dropLast.any (fits '@')
  let below (path : String) : List String × Bool :=
    match tree.locate (if path = "" then "." else path) with
    | .ok (location, .directory) =>
      let lead := if path = "" then "" else if path.endsWith "/" then path else path ++ "/"
      let found := (tree.descendants location).filterMap fun (names, node) =>
        match node with
        | .directory => none
        | .file .. => if wanted names then some (lead ++ "/".intercalate names) else none
      (found, true)
    | _ => ([path], false)
  let found := (if operands = [] then [""] else operands).map below
  return (found.flatMap Prod.fst, 1 < operands.length || found.any Prod.snd)

/-- A dash and a number ask for so many lines around each. -/
def withContext (arguments : List String) : List String :=
  arguments.flatMap fun argument =>
    match argument.toList with
    | '-' :: c :: cs =>
      if (c :: cs).all Text.Decimal.isDigit then ["-C", String.ofList (c :: cs)] else [argument]
    | _ => [argument]

/-- What has been found so far. -/
structure Findings where
  /-- Whether any line is wanted. -/
  any : Bool
  failed : Bool
  shown : Bool

/-- Searches an input and prints what is asked for. -/
def searchOne (options : Options) (sought : Sought) (showing : Showing) (most : Option Nat)
    (path : String) (bytes : List UInt8) (findings : Findings) : Run Findings := do
  let name := if path = "-" then "(standard input)" else path
  let showing := { showing with label := showing.label.map fun _ => name }
  let all := numberedLines bytes
  let wanted := all.filter fun line => sought.wants line.text
  let wanted := (most.map wanted.take).getD wanted
  let findings := { findings with any := findings.any || !wanted.isEmpty }
  if options.has 'q' then return findings
  if options.has 'l' || options.has 'L' then
    if wanted.isEmpty = options.has 'L' then
      let _ ← print (name ++ showing.behindLabel.getD "\n")
    return findings
  if options.has 'c' then
    let bare := { showing with numbered := false, withOffset := false }
    let _ ← print (bare.lead ⟨0, 0, []⟩ 0 ":" ++ Text.Decimal.text wanted.length ++ "\n")
    return findings
  if bytes.contains 0 && !options.has 'a' && wanted ≠ [] then
    complain "grep" s!"{name}: binary file matches"
    return findings
  let isFound (number : Nat) : Bool := wanted.any (·.number = number)
  let shown := wanted.foldl (showing.add sought all isFound) ⟨findings.shown, 0, []⟩
  let _ ← write 1 shown.output
  return { findings with shown := shown.any }

/-- Searches the inputs. -/
def search (speaker : String) (options : Options) : Run Nat := do
  let number (letters : List Char) (complaint : String → String) : Run (Except Nat (Option Nat)) := do
    match (options.chosen.filter fun entry => letters.contains entry.1).getLast? with
    | none => return .ok none
    | some (_, text) =>
      match number? text with
      | some number => return .ok (some number)
      | none => complain speaker (complaint text); return .error 2
  let contextFault (text : String) : String := s!"{text}: invalid context length argument"
  match ← number ['m'] fun _ => "invalid max count" with
  | .error status => return status
  | .ok most =>
  match ← number ['A', 'C'] contextFault, ← number ['B', 'C'] contextFault with
  | .error status, _ | _, .error status => return status
  | .ok after, .ok before =>
  match ← patternTexts speaker options with
  | .error status => return status
  | .ok (texts, operands) =>
  match soughtOf options texts with
  | .error error => complain speaker error.message; return 2
  | .ok (sought, notes) =>
    for note in notes do
      if note = .bareClass then
        complain speaker note.message
        return 2
      complain speaker s!"warning: {note.message}"
    let (paths, several) ← searchedPaths options operands
    let labelled := (several || options.has 'H') && !options.has 'h'
    let showing : Showing := {
      label := if labelled then some "" else none
      behindLabel := if options.has 'Z' then some "\x00" else none
      numbered := options.has 'n', withOffset := options.has 'b', onlyMatches := options.has 'o'
      before := before.getD 0, after := after.getD 0, grouped := before.isSome || after.isSome }
    let mut findings : Findings := ⟨false, false, false⟩
    for path in paths do
      match ← if path = "-" then takeInput 0 else inputAt path with
      | .error error =>
        findings := { findings with failed := true }
        if !options.has 's' then
          let _ ← refused speaker (if path = "-" then "(standard input)" else path) error
      | .ok (bytes, forever) =>
        -- of an input that never ends, so much is read as can be asked for
        let bytes := bytes ++ ((most.getD 1).repeat (· ++ forever) forever)
        findings ← searchOne options sought showing most path bytes findings
        if forever ≠ [] && most.isNone && !options.has 'q' && !options.has 'l' then hang
    return if findings.any && options.has 'q' then 0
      else if findings.failed then 2
      else if findings.any then 0
      else 1

/-- Prints the lines that match a pattern. -/
def grep : Utility := fun speaker arguments =>
  withOptions searchGrammar 2 search speaker (withContext arguments)

end StepGraph.Shell.Utility
