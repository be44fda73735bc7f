import StepGraph.Shell.Editor.Parser
import StepGraph.Shell.Editor.Run
import StepGraph.Shell.Utility.Streams

/-! Editing files and streams by a script. -/
namespace StepGraph.Shell.Utility
open Run

/-- Where a text of a script comes from, for complaints. -/
inductive ScriptSource
  | expression (number : Nat)
  | file (path : String)

/-- A complaint about a script of which so much was read. -/
def ScriptSource.complaint (source : ScriptSource) (read : List Char) (message : String) : String :=
  match source with
  | .expression number =>
    let place := Text.Decimal.text read.length
    s!"-e expression #{Text.Decimal.text number}, char {place}: {message}"
  | .file path =>
    let line := Text.Decimal.text (1 + read.count '\n')
    s!"file {path} line {line}: {message}"

/-- The status when editing cannot go on. -/
def failureStatus : Nat := 4

/-- The options of editing. -/
def editGrammar : Grammar where
  flags := "nErsuz"
  valued := "efl"
  optional := "i"
  long := [("quiet", 'n'), ("silent", 'n'), ("regexp-extended", 'E'), ("expression", 'e'),
    ("file", 'f'), ("in-place", 'i'), ("separate", 's'), ("line-length", 'l'),
    ("unbuffered", 'u'), ("null-data", 'z')]

/-- The texts of the script, each with its source, and the operands that are left. -/
def scriptTexts (speaker : String) (options : Options) :
    Run (Except Nat (List (ScriptSource × List Char) × List String)) := do
  let mut texts : List (ScriptSource × List Char) := []
  let mut expressions := 0
  for (letter, value) in options.chosen do
    if letter = 'e' then
      expressions := expressions + 1
      texts := texts ++ [(.expression expressions, Text.Octet.ofText value)]
    else if letter = 'f' then
      match ← if value = "-" then takeInput 0 else inputAt value with
      | .error error =>
        complain speaker s!"couldn't open file {value}: {error.reason}"
        return .error failureStatus
      | .ok (bytes, _) => texts := texts ++ [(.file value, Text.Octet.ofBytes bytes)]
  if texts.isEmpty then
    match options.operands with
    | [] =>
      let _ ← write 2
        "Usage: sed [OPTION]... \x7bscript-only-if-no-other-script\x7d [input-file]...\n".toUTF8.toList
      return .error 1
    | script :: files => return .ok ([(.expression 1, Text.Octet.ofText script)], files)
  else return .ok (texts, options.operands)

/-- The script that texts are, or a complaint and a status. -/
def scriptOf (extended : Bool) (texts : List (ScriptSource × List Char)) :
    Except (String × Nat) Editor.Script := do
  let refusal (source : ScriptSource) (read : List Char) (fault : Editor.Fault) : String × Nat :=
    match fault with
    | .oddRegex message => (message, failureStatus)
    | fault => (source.complaint read fault.message, 1)
  let draft ← texts.foldlM (fun draft (source, text) =>
    match draft.add ⟨extended⟩ text with
    | .ok draft => .ok draft
    | .error (fault, read) => .error (refusal source read fault)) Editor.Draft.empty
  match draft.script with
  | .ok script => return script
  | .error fault => throw (refusal ((texts.getLast?.map Prod.fst).getD (.expression 1)) [] fault)

/-- The lines of a file. -/
def editorLines (file : String) (bytes : List UInt8) : List Editor.Line :=
  let all := (lines bytes).map fun line => Editor.Line.mk (Text.Octet.ofBytes line) true file
  if bytes = [] || bytes.getLast? = some 10 then all
  else all.dropLast ++ (all.getLast?.map fun line => { line with ended := false }).toList

/-- Writes what editing has written to files of its own. -/
def writeEdited (speaker : String) (outputs : List (String × Editor.Output)) : Run Nat :=
  outputs.foldlM (fun status (path, output) => do
    let bytes := Text.Octet.toBytes output.text
    if path = Editor.standardOutput then return status
    else if path = "/dev/stderr" then
      let _ ← write 2 bytes
      return status
    else if path = "/dev/null" then return status
    else
      match (← files).write path ⟨bytes.toArray⟩ with
      | .ok changed => setFiles changed; return status
      | .error error =>
        complain speaker s!"couldn't open file {path}: {error.reason}"
        return failureStatus) 0

/-- What is said of the reason for which editing stopped, and the status. -/
def stopped (speaker : String) (stop : Option Editor.Stop) (status : Nat) : Run Nat := do
  match stop with
  | none => return status
  | some (.ended code) => return if code = 0 then status else code
  | some .noPattern =>
    complain speaker "-e expression #1, char 0: no previous regular expression"
    return 1
  | some (.unknownLabel name) =>
    complain speaker s!"can't find label for jump to \x60{name}'"
    return failureStatus
  | some .endless => hang

/-- The name that the copy of a file gets before the file is edited: a star in the suffix
stands for the name of the file. -/
def backupName (suffix path : String) : String :=
  if suffix.toList.contains '*' then
    let names := path.splitOn "/"
    let name := (suffix.toList.flatMap fun c =>
      if c = '*' then (names.getLastD "").toList else [c])
    "/".intercalate (names.dropLast ++ [String.ofList name])
  else path ++ suffix

/-- Edits files in their places. -/
def editInPlace (speaker suffix : String) (settings : Editor.Settings) (script : Editor.Script)
    (paths : List String) : Run Nat := do
  let mut status := 0
  let mut editing := Editor.Editing.start script []
  for path in paths do
    match (← files).read path with
    | .error .isADirectory =>
      complain speaker s!"couldn't edit {path}: not a regular file"
      status := failureStatus
    | .error error =>
      complain speaker s!"can't read {path}: {error.reason}"
      status := 2
    | .ok content =>
      let fresh := Editor.Editing.start script (editorLines path content.data.toList)
      let begun := { fresh with
        held := editing.held, last := editing.last, readers := editing.readers
        outputs := (Editor.standardOutput, .empty) :: editing.outputs.drop 1 }
      let (stop, after) := Editor.edit settings script begun
      editing := after
      let edited := Text.Octet.toBytes ((after.outputs.lookup Editor.standardOutput).getD .empty).text
      let save (path : String) (content : ByteArray) : Run Unit := do
        match (← files).write path content with
        | .ok changed => setFiles changed
        | .error _ => pure ()
      if suffix ≠ "" then save (backupName suffix path) content
      save path ⟨edited.toArray⟩
      if stop.isSome then
        let _ ← writeEdited speaker editing.outputs
        return ← stopped speaker stop status
  let written ← writeEdited speaker editing.outputs
  return if status = 0 then written else status

/-- Edits streams. -/
def editStreams (speaker : String) (settings : Editor.Settings) (script : Editor.Script)
    (operands : List String) : Run Nat := do
  let mut status := 0
  let mut all : List Editor.Line := []
  let mut isEndless := false
  for path in if operands = [] then ["-"] else operands do
    match ← if path = "-" then takeInput 0 else inputAt path with
    | .ok (bytes, forever) =>
      -- of an input that never ends, more is read than scripts take before they stop
      let more := if forever = [] then [] else takeForever (1000 * forever.length) forever
      all := all ++ editorLines path (bytes ++ more)
      isEndless := isEndless || forever ≠ []
    | .error .isADirectory =>
      complain speaker s!"read error on {path}: {IoError.isADirectory.reason}"
      status := failureStatus
    | .error error =>
      complain speaker s!"can't read {path}: {error.reason}"
      status := 2
  let (stop, after) := Editor.edit settings script (.start script all)
  let _ ← write 1 (Text.Octet.toBytes ((after.outputs.lookup Editor.standardOutput).getD .empty).text)
  let written ← writeEdited speaker after.outputs
  if isEndless && stop.isNone then hang
  stopped speaker stop (if status = 0 then written else status)

/-- Edits files or streams by a script. -/
def sed : Utility :=
  withOptions editGrammar 1 fun speaker options => do
    match ← scriptTexts speaker options with
    | .error status => return status
    | .ok (texts, operands) =>
      match scriptOf (options.has 'E' || options.has 'r') texts with
      | .error (complaint, status) => complain speaker complaint; return status
      | .ok script =>
        match script.missingLabels with
        | name :: _ =>
          complain speaker s!"can't find label for jump to \x60{name}'"
          return failureStatus
        | [] =>
          let tree ← files
          let content (path : String) : Option (List Char) :=
            ((tree.read path).toOption.map fun content => Text.Octet.ofBytes content.data.toList)
          let settings : Editor.Settings := {
            quiet := options.has 'n' || script.quiet
            separate := options.has 's' || options.has 'i'
            width := ((options.value? 'l').bind number?).getD 70
            read := content }
          match options.value? 'i' with
          | some suffix => editInPlace speaker suffix settings script operands
          | none => editStreams speaker settings script operands

end StepGraph.Shell.Utility
