import StepGraph.Shell.Editor.Basic
import StepGraph.Shell.Regex.Parser
import StepGraph.Text.Hex

/-! Reading scripts that edit text. A script may come in several texts; blocks and the text
of an instruction may begin in one and go on in the next. -/
namespace StepGraph.Shell.Editor

/-- What is known of a script while its texts are read. -/
structure Draft where
  /-- What is left of the text that is being read. -/
  chars : List Char
  /-- The instructions read so far, the latest first. -/
  instructions : List Instruction
  /-- The places of the blocks that are open, the innermost first. -/
  blocks : List Nat
  labels : List (String × Nat)
  quiet : Bool
  /-- Whether the text of the last instruction is still to come. -/
  awaitsText : Bool

/-- A draft before any text. -/
def Draft.empty : Draft := ⟨[], [], [], [], false, false⟩

/-- How scripts are written. -/
structure Style where
  extended : Bool

/-- Reads a script; what is left at a fault is known. -/
abbrev Reader := ReaderT Style (ExceptT Fault (StateM Draft))

namespace Reader

/-- Takes the next character. -/
def take? : Reader (Option Char) := do
  match (← get).chars with
  | [] => return none
  | c :: rest =>
    modify fun draft => { draft with chars := rest }
    return some c

/-- The next character. -/
def peek? : Reader (Option Char) := do return (← get).chars.head?

/-- Passes over the characters that a test accepts, and gives them. -/
def takeWhile (accepts : Char → Bool) : Reader (List Char) := do
  let found := (← get).chars.takeWhile accepts
  modify fun draft => { draft with chars := draft.chars.drop found.length }
  return found

/-- Whether a character is blank. -/
def isBlank (c : Char) : Bool := c = ' ' || ('\t' ≤ c && c ≤ '\r' && c ≠ '\n')

/-- Passes over blanks. -/
def skipBlanks : Reader Unit := do
  let _ ← takeWhile isBlank

/-- A number, if one is next. -/
def number? : Reader (Option Nat) := do
  match ← takeWhile Text.Decimal.isDigit with
  | [] => return none
  | digits => return some (Text.Decimal.value digits)

/-! ## Texts between delimiters -/

/-- Splits behind the bracket that closes a list of characters. -/
def closeBracket : (fuel : Nat) → (first : Bool) → List Char → Option (List Char × List Char)
  | 0, _, _ => none
  | _, _, [] => none
  | fuel + 1, first, c :: rest =>
    let more (count : Nat) : Option (List Char × List Char) :=
      (closeBracket fuel false (rest.drop count)).map fun (inside, after) =>
        (c :: rest.take count ++ inside, after)
    if c = '\n' then none
    else if c = ']' && !first then some ([c], rest)
    else if c = '[' then
      match rest with
      | mark :: after =>
        if mark = ':' || mark = '.' || mark = '=' then
          match Regex.splitAt2 mark ']' after with
          | some (name, _) => more (name.length + 3)
          | none => more 0
        else more 0
      | [] => none
    else more 0

/-- Splits at a delimiter. A backslash takes the meaning of the delimiter away, and makes
the end of a line of the letter that stands for it in a regular expression; between
brackets, the delimiter means nothing. `fuel` bounds the characters. -/
def untilDelimiter (regex : Bool) (delimiter : Char) :
    (fuel : Nat) → List Char → Option (List Char × List Char)
  | 0, _ => none
  | _, [] => none
  | fuel + 1, c :: rest =>
    let more (chars rest : List Char) : Option (List Char × List Char) :=
      (untilDelimiter regex delimiter fuel rest).map fun (inside, rest) => (chars ++ inside, rest)
    if c = delimiter then some ([], rest)
    else if c = '\n' && regex then none
    else if c = '\\' then
      match rest with
      | [] => none
      | d :: rest =>
        if d = 'n' && regex then more ['\n'] rest
        else if d = '\n' then more (if regex then [d] else [c, d]) rest
        else if d = delimiter && (regex || d ≠ '&') then more [d] rest
        else more [c, d] rest
    else if c = '\n' then none
    else if c = '[' && regex then
      let (caret, body) := match rest with
        | '^' :: after => (['^'], after)
        | after => ([], after)
      match closeBracket (body.length + 1) true body with
      | some (inside, rest) => more (c :: caret ++ newlines inside) rest
      | none => none
    else more [c] rest
where
  /-- Inside brackets, too, a letter behind a backslash stands for the end of a line. -/
  newlines : List Char → List Char
    | '\\' :: 'n' :: rest => '\n' :: newlines rest
    | '\\' :: d :: rest => if d = delimiter then d :: newlines rest else '\\' :: newlines (d :: rest)
    | c :: rest => c :: newlines rest
    | [] => []

/-- Takes a text up to a delimiter. -/
def delimited (regex : Bool) (delimiter : Char) (fault : Fault) : Reader (List Char) := do
  let draft ← get
  match untilDelimiter regex delimiter (draft.chars.length + 1) draft.chars with
  | none =>
    modify fun draft => { draft with chars := [] }
    throw fault
  | some (inside, rest) =>
    set { draft with chars := rest }
    return inside

/-- The value of digits of a base at the beginning of a text, at most so many, and what
stands behind them. -/
def codeIn (base most : Nat) (chars : List Char) : Option (Char × List Char) :=
  let digits := (chars.take most).takeWhile fun c => (Text.Hex.value? c).any (· < base)
  if digits = [] then none
  else
    let value := digits.foldl (fun total c => total * base + (Text.Hex.value? c).getD 0) 0
    some (Char.ofNat (value % 256), chars.drop digits.length)

/-- Replaces the escapes that name characters. `fuel` bounds the characters. -/
def unescape : (fuel : Nat) → List Char → List Char
  | 0, _ => []
  | _, [] => []
  | fuel + 1, '\\' :: c :: rest =>
    let code (base most : Nat) : List Char :=
      match codeIn base most rest with
      | some (found, rest) => found :: unescape fuel rest
      | none => '\\' :: c :: unescape fuel rest
    match c with
    | 'a' => '\x07' :: unescape fuel rest
    | 'f' => '\x0c' :: unescape fuel rest
    | 'n' => '\n' :: unescape fuel rest
    | 'r' => '\r' :: unescape fuel rest
    | 't' => '\t' :: unescape fuel rest
    | 'v' => '\x0b' :: unescape fuel rest
    | 'c' =>
      match rest with
      | d :: rest => Char.ofNat (d.toUpper.toNat ^^^ 0x40) :: unescape fuel rest
      | [] => ['\\', 'c']
    | 'd' => code 10 3
    | 'o' => code 8 3
    | 'x' => code 16 2
    | c => '\\' :: c :: unescape fuel rest
  | fuel + 1, c :: rest => c :: unescape fuel rest

/-- A pattern that is written out. -/
def pattern (text : List Char) (ignoresCase byLine : Bool) : Reader Pattern := do
  let manner : Manner := { ignoresCase, byLine }
  if text = [] then return ⟨none, manner⟩
  let dialect : Dialect := { extended := (← read).extended, strict := true }
  match Regex.parseNoting dialect (unescape (text.length + 1) text) with
  | .ok (regex, []) => return ⟨some regex, manner⟩
  | .ok (_, note :: _) => throw (.oddRegex note.message)
  | .error error => throw (.regex error.message)

/-! ## Addresses -/

/-- What stands in the place of an address. -/
inductive Place
  | address (address : Address)
  | later (count : Nat)
  | multiple (of : Nat)

/-- Takes an address, if one is next. -/
def place? : Reader (Option Place) := do
  match ← peek? with
  | none => return none
  | some c =>
    let matching (delimiter : Char) : Reader (Option Place) := do
      let text ← delimited true delimiter .unterminatedAddress
      let flags ← takeWhile fun c => c = 'I' || c = 'M'
      let pattern ← pattern text (flags.contains 'I') (flags.contains 'M')
      return some (.address (.matching pattern))
    if c = '/' then
      let _ ← take?
      matching '/'
    else if c = '\\' then
      let _ ← take?
      match ← take? with
      | none => throw .unterminatedAddress
      | some delimiter => matching delimiter
    else if c = '$' then
      let _ ← take?
      return some (.address .last)
    else if c = '+' || c = '~' then
      let _ ← take?
      let count := (← number?).getD 0
      return some (if c = '+' then .later count else .multiple count)
    else
      match ← number? with
      | none => return none
      | some first =>
        skipBlanks
        if (← peek?) = some '~' then
          let _ ← take?
          skipBlanks
          match (← number?).getD 0 with
          | 0 => return some (.address (.line first))
          | step => return some (.address (.every first step))
        else return some (.address (.line first))

/-- Takes the lines to which an instruction applies. -/
def selection : Reader Selection := do
  let isZero (place : Place) : Bool := place matches .address (.line 0)
  match ← place? with
  | none => return .all
  | some (.later _) | some (.multiple _) => throw .badFirstAddress
  | some (.address first) =>
    skipBlanks
    if (← peek?) ≠ some ',' then
      if isZero (.address first) then
        let _ ← take?
        throw .lineZero
      return .one first
    let _ ← take?
    skipBlanks
    let last ← match ← place? with
      | none => throw .unexpectedComma
      | some (.address address) => pure (RangeEnd.address address)
      | some (.later count) => pure (.later count)
      | some (.multiple factor) => pure (.multiple factor)
    if isZero (.address first) then
      match last with
      | .address (.matching _) => return .range none last
      | _ =>
        let _ ← take?
        throw .lineZero
    return .range (some first) last

/-! ## Instructions -/

/-- Takes the end of an instruction. -/
def ending : Reader Unit := do
  skipBlanks
  match ← peek? with
  | none | some '\x7d' | some '#' => pure ()
  | some c =>
    let _ ← take?
    if c ≠ '\n' && c ≠ ';' then throw .trailing

/-- Takes a label, which a brace ends, too. -/
def label : Reader String := do
  skipBlanks
  let text ← takeWhile fun c => !isBlank c && c ≠ '\n' && c ≠ ';' && c ≠ '\x7d'
  return String.ofList text

/-- Takes a label to which an instruction goes. -/
def target : Reader String := do
  let name ← label
  ending
  return name

/-- Takes the name of a file, which goes to the end of the line. -/
def path : Reader String := do
  skipBlanks
  match ← takeWhile (· ≠ '\n') with
  | [] => throw .missingFile
  | name => return String.ofList name

/-- The lines of a text at the beginning of characters, where a backslash takes the end of
a line along, and what is left. Nothing is left of the text if it does not end here. -/
def textLines : List Char → List Char × Option (List Char)
  | [] => ([], none)
  | '\n' :: rest => ([], some rest)
  | ['\\'] => ([], none)
  | '\\' :: c :: rest =>
    let (text, rest) := textLines rest
    (if c = '\n' then c :: text else '\\' :: c :: text, rest)
  | c :: rest =>
    let (text, rest) := textLines rest
    (c :: text, rest)

/-- A text without the backslashes that name no character. -/
def withoutBackslashes : List Char → List Char
  | [] => []
  | ['\\'] => []
  | '\\' :: c :: rest => c :: withoutBackslashes rest
  | c :: rest => c :: withoutBackslashes rest

/-- Takes the text of an instruction. -/
def text : Reader (List Char) := do
  let (text, rest) := textLines (← get).chars
  modify fun draft => { draft with chars := rest.getD [], awaitsText := false }
  return withoutBackslashes (unescape (text.length + 1) text) ++ ['\n']

/-- Takes the text behind the letter of an instruction: on the same line, or behind a
backslash on the next. -/
def textBehind : Reader (List Char) := do
  skipBlanks
  match (← get).chars with
  | [] => throw .expectedBackslash
  | '\\' :: rest =>
    match rest.dropWhile isBlank with
    | '\n' :: after =>
      modify fun draft => { draft with chars := after, awaitsText := after.isEmpty }
      if after.isEmpty then return ['\n']
    | [] =>
      modify fun draft => { draft with chars := [], awaitsText := true }
      return []
    | _ => modify fun draft => { draft with chars := rest }
    text
  | _ => text

/-- The parts of a replacement. -/
def parts : (fuel : Nat) → List Char → List Part
  | 0, _ => []
  | _, [] => []
  | fuel + 1, '\\' :: c :: rest =>
    let first : Part := match c with
      | 'U' => .case .upper
      | 'L' => .case .lower
      | 'u' => .case .nextUpper
      | 'l' => .case .nextLower
      | 'E' => .case .none
      | c => if Text.Decimal.isDigit c then .group (c.toNat - 48) else .text [c]
    first :: parts fuel rest
  | fuel + 1, '&' :: rest => .group 0 :: parts fuel rest
  | fuel + 1, c :: rest => .text [c] :: parts fuel rest

/-- The flags of a substitution, read so far. -/
structure Flags where
  all : Bool
  prints : Bool
  ignoresCase : Bool
  byLine : Bool
  number : Option Nat
  file : Option String

/-- Takes the flags of a substitution; `fuel` bounds their number. -/
def flags : (fuel : Nat) → Flags → Reader Flags
  | 0, found => return found
  | fuel + 1, found => do
    match ← peek? with
    | none | some '\x7d' | some '#' => return found
    | some c =>
      if Text.Decimal.isDigit c then
        let number ← number?
        if found.number.isSome then throw .severalNumbers
        if number = some 0 then throw .zeroNumber
        flags fuel { found with number }
      else
        let _ ← take?
        match c with
        | '\n' | ';' => return found
        | 'g' =>
          if found.all then throw (.repeatedFlag c)
          flags fuel { found with all := true }
        | 'p' =>
          if found.prints then throw (.repeatedFlag c)
          flags fuel { found with prints := true }
        | 'i' | 'I' => flags fuel { found with ignoresCase := true }
        | 'm' | 'M' => flags fuel { found with byLine := true }
        | 'w' =>
          let file ← path
          return { found with file := some file }
        | c => if isBlank c then flags fuel found else throw .unknownFlag

/-- Takes a substitution behind its letter. -/
def substitution : Reader Substitution := do
  match ← take? with
  | none => throw .unterminatedSubstitution
  | some delimiter =>
    let regex ← delimited true delimiter .unterminatedSubstitution
    let replacement ← delimited false delimiter .unterminatedSubstitution
    let flags ← flags ((← get).chars.length + 1) ⟨false, false, false, false, none, none⟩
    let pattern ← pattern regex flags.ignoresCase flags.byLine
    let parts := parts (replacement.length + 1) (unescape (replacement.length + 1) replacement)
    let missing := parts.filterMap fun
      | .group number =>
        if pattern.regex.any (·.groupCount < number) then some number else none
      | _ => none
    match missing.head? with
    | some number => throw (.missingGroup number)
    | none => pure ()
    return {
      pattern
      replacement := parts
      first := flags.number.getD 1
      all := flags.all
      prints := flags.prints
      file := flags.file }

/-- The characters of a translation, of which a backslash quotes one. -/
def translated : List Char → List Char
  | '\\' :: 'n' :: rest => '\n' :: translated rest
  | '\\' :: '\\' :: rest => '\\' :: translated rest
  | c :: rest => c :: translated rest
  | [] => []

/-- Takes a translation behind its letter. -/
def translation : Reader (List (Char × Char)) := do
  match ← take? with
  | none => throw .unterminatedTranslation
  | some delimiter =>
    let source := translated (← delimited false delimiter .unterminatedTranslation)
    let target := translated (← delimited false delimiter .unterminatedTranslation)
    if source.length ≠ target.length then throw .unequalTranslation
    ending
    return source.zip target

/-- Adds an instruction. -/
def add (instruction : Instruction) : Reader Unit :=
  modify fun draft => { draft with instructions := instruction :: draft.instructions }

/-- Closes the innermost block. -/
def closeBlock : Reader Unit := do
  let draft ← get
  match draft.blocks with
  | [] => throw .unexpectedClosing
  | place :: others =>
    let count := draft.instructions.length
    let instructions := draft.instructions.modify (count - 1 - place) fun instruction =>
      { instruction with action := .block count }
    set { draft with blocks := others, instructions }

/-- What the letter of an instruction says that takes nothing but numbers and files. -/
def action (c : Char) (hasRange : Bool) : Reader Action := do
  let plain (action : Action) : Reader Action := do
    ending
    return action
  match c with
  | 'd' => plain .delete
  | 'D' => plain .deleteFirst
  | 'p' => plain .print
  | 'P' => plain .printFirst
  | 'n' => plain .next
  | 'N' => plain .appendNext
  | 'h' => plain .hold
  | 'H' => plain .holdMore
  | 'g' => plain .get
  | 'G' => plain .getMore
  | 'x' => plain .exchange
  | 'z' => plain .clear
  | '=' => plain .number
  | 'F' => plain .fileName
  | 'l' =>
    skipBlanks
    let width ← number?
    plain (.list width)
  | 'q' | 'Q' =>
    if hasRange then throw .oneAddress
    skipBlanks
    let status := (← number?).getD 0
    plain (.quit (c = 'Q') status)
  | 'r' => return .readFile (← path)
  | 'R' => return .readLine (← path)
  | 'w' => return .write (← path)
  | 'W' => return .writeFirst (← path)
  | 's' => return .substitute (← substitution)
  | 'y' => return .translate (← translation)
  | 'b' => return .jump .always (← target)
  | 't' => return .jump .ifReplaced (← target)
  | 'T' => return .jump .unlessReplaced (← target)
  | 'a' => return .append (← textBehind)
  | 'i' => return .insert (← textBehind)
  | 'c' => return .change (← textBehind)
  | c => throw (.unknownCommand c)

/-- Takes an instruction. -/
def instruction : Reader Unit := do
  let selection ← selection
  let addressed := !(selection matches .all)
  let hasRange := selection matches .range ..
  skipBlanks
  let negated := (← peek?) = some '!'
  if negated then
    let _ ← take?
    skipBlanks
    if (← peek?) = some '!' then
      let _ ← take?
      throw .negatedTwice
  match ← take? with
  | none => throw .missingCommand
  | some '#' =>
    if addressed then throw .addressedComment
    let _ ← takeWhile (· ≠ '\n')
  | some ':' =>
    if addressed then throw .addressedLabel
    let name ← label
    if name = "" then throw .missingLabel
    modify fun draft => { draft with labels := (name, draft.instructions.length) :: draft.labels }
    add ⟨.all, false, .mark⟩
  | some '\x7b' =>
    modify fun draft => { draft with blocks := draft.instructions.length :: draft.blocks }
    add ⟨selection, negated, .block 0⟩
  | some '\x7d' =>
    if (← get).blocks = [] then throw .unexpectedClosing
    if addressed then throw .addressedClosing
    ending
    closeBlock
    add ⟨.all, false, .mark⟩
  | some c =>
    if c = '\n' || c = ';' then throw .missingCommand
    let action ← action c hasRange
    add ⟨selection, negated, action⟩

/-- Takes instructions to the end of the text; `fuel` bounds the characters. -/
def instructions : (fuel : Nat) → Reader Unit
  | 0 => pure ()
  | fuel + 1 => do
    let _ ← takeWhile fun c => isBlank c || c = '\n' || c = ';'
    if (← peek?).isSome then
      instruction
      instructions fuel

/-- Puts the text that an instruction awaits in its place. -/
def lateText : Reader Unit := do
  if (← get).awaitsText then
    let text ← text
    modify fun draft =>
      { draft with
        instructions := match draft.instructions with
          | [] => []
          | last :: others =>
            let action := match last.action with
              | .append _ => .append text
              | .insert _ => .insert text
              | .change _ => .change text
              | action => action
            { last with action } :: others }

end Reader

/-- Adds a text to a draft. A fault comes with what was read by then. -/
def Draft.add (style : Style) (draft : Draft) (text : List Char) :
    Except (Fault × List Char) Draft :=
  let quiet := draft.instructions.isEmpty &&
    (text = ['#', 'n'] || text.take 3 = ['#', 'n', '\n'])
  let read : Reader Unit := do
    Reader.lateText
    Reader.instructions (text.length + 1)
  match (read.run style).run.run { draft with chars := text, quiet := draft.quiet || quiet } with
  | (.ok _, draft) => .ok draft
  | (.error fault, draft) => .error (fault, text.take (text.length - draft.chars.length))

/-- The script of a draft to which nothing is added. -/
def Draft.script (draft : Draft) : Except Fault Script :=
  if draft.blocks = [] then .ok ⟨draft.instructions.reverse, draft.labels, draft.quiet⟩
  else .error .unmatchedOpening

end StepGraph.Shell.Editor
