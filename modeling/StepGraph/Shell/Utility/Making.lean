import StepGraph.FileSystem.Replace
import StepGraph.Shell.Utility.Permissions
import StepGraph.Shell.Utility.Streams

/-! Utilities that make files and directories, and that remove them. -/
namespace StepGraph.Shell.Utility
open Run

/-- Runs an operation on the files, and complains if it is refused. -/
def change (speaker complaint : String) (operation : FileSystem → Except IoError FileSystem) :
    Run Nat := do
  match operation (← files) with
  | .ok changed => setFiles changed; return 0
  | .error error => complain speaker s!"{complaint}: {error.reason}"; return 1

/-- Prints what has been done, if that is asked for. -/
def report (options : Options) (text : String) : Run Unit := do
  if options.has 'v' then
    let _ ← print (text ++ "\n")

/-! ## Directories -/

/-- The paths that lead to a path: each ends with one name more. -/
def leadingPaths (path : String) : List String :=
  let step (found : List (List Char) × List Char) (c : Char) : List (List Char) × List Char :=
    let (done, before) := found
    if c = '/' && before.head?.any (· ≠ '/') then (before.reverse :: done, c :: before)
    else (done, c :: before)
  let (done, before) := path.toList.foldl step ([], [])
  let all := if before.head? = some '/' then done else before.reverse :: done
  (all.reverse.map String.ofList).filter (· ≠ "")

/-- Makes a directory and those above it. -/
def makeWithParents (speaker : String) (options : Options) (path : String) : Run Nat := do
  let all := if path = "" then [""] else leadingPaths path
  for (leading, index) in all.zipIdx do
    match (← files).locate leading with
    | .ok (_, .directory) => pure ()
    | .ok (_, .file ..) =>
      let error : IoError := if index + 1 = all.length then .alreadyExists else .notADirectory
      complain speaker s!"cannot create directory '{leading}': {error.reason}"
      return 1
    | .error _ =>
      let status ← change speaker s!"cannot create directory '{leading}'" (·.makeDirectory leading)
      if status ≠ 0 then return status
      report options s!"{speaker}: created directory '{leading}'"
  return 0

/-- Makes directories. -/
def mkdir : Utility :=
  let grammar : Grammar := {
    flags := "pv", valued := "m"
    long := [("parents", 'p'), ("verbose", 'v'), ("mode", 'm')] }
  withOptions grammar 1 fun speaker options => do
    if options.operands = [] then return ← misuse speaker "missing operand" 1
    match options.value? 'm' with
    | some mode =>
      if (ModeChange.ofText? mode).isNone then
        complain speaker s!"invalid mode '{mode}'"
        return 1
    | none => pure ()
    forEach options.operands fun path => do
      if options.has 'p' then makeWithParents speaker options path
      else
        let status ← change speaker s!"cannot create directory '{path}'" (·.makeDirectory path)
        if status = 0 then report options s!"{speaker}: created directory '{path}'"
        return status

/-- Removes directories that are empty. -/
def rmdir : Utility :=
  let grammar : Grammar := {
    flags := "pv!"
    long := [("parents", 'p'), ("verbose", 'v'), ("ignore-fail-on-non-empty", '!')] }
  withOptions grammar 1 fun speaker options => do
    if options.operands = [] then return ← misuse speaker "missing operand" 1
    forEach options.operands fun path => do
      let all := if options.has 'p' then (leadingPaths path).reverse else [path]
      for target in all do
        report options s!"{speaker}: removing directory, '{target}'"
        let tree ← files
        let outcome : Except IoError FileSystem := do
          match ← tree.locate target with
          | (_, .file ..) => throw .notADirectory
          | (location, .directory) =>
            if tree.children location ≠ [] then throw .directoryNotEmpty
            else return tree.remove location
        match outcome with
        | .ok changed => setFiles changed
        | .error error =>
          if error = .directoryNotEmpty && options.has '!' then return 0
          complain speaker s!"failed to remove '{target}': {error.reason}"
          return 1
      return 0

/-! ## Files -/

/-- Makes files, and leaves those that are there as they are. -/
def touch : Utility :=
  let grammar : Grammar := {
    flags := "acmfh", valued := "drt"
    long := [("no-create", 'c'), ("date", 'd'), ("reference", 'r'), ("no-dereference", 'h')]
    optional := "#" }
  withOptions grammar 1 fun speaker options => do
    if options.operands = [] then return ← misuse speaker "missing file operand" 1
    forEach options.operands fun path => do
      let tree ← files
      if tree.exists? path || options.has 'c' then return 0
      if path.endsWith "/" then
        complain speaker s!"setting times of '{path}': {IoError.notFound.reason}"
        return 1
      match ← emptyFile path with
      | .ok _ => return 0
      | .error error =>
        complain speaker s!"cannot touch '{path}': {error.reason}"
        return 1

/-- The size of a file as a text says it: a number, perhaps behind a sign that says how it
changes the size that the file has. -/
def newSize? (text : List Char) (size : Nat) : Option Nat :=
  let change (rest : List Char) (apply : Nat → Nat) : Option Nat := (sized? rest).map apply
  match text with
  | '+' :: rest => change rest fun count => size + count
  | '-' :: rest => change rest fun count => size - count
  | '<' :: rest => change rest fun count => min size count
  | '>' :: rest => change rest fun count => max size count
  | '/' :: rest => change rest fun count => size / max 1 count * count
  | '%' :: rest => change rest fun count => (size + count - 1) / max 1 count * count
  | rest => sized? rest

/-- Cuts files to a size, or fills them up with zeros. -/
def truncate : Utility :=
  let grammar : Grammar := {
    flags := "co", valued := "sr"
    long := [("no-create", 'c'), ("io-blocks", 'o'), ("size", 's'), ("reference", 'r')] }
  withOptions grammar 1 fun speaker options => do
    let tree ← files
    let base := (options.value? 'r').map fun path => (tree.read path).toOption.map ByteArray.size
    match options.value? 's', base with
    | none, none => misuse speaker "you must specify either '--size' or '--reference'" 1
    | size?, base =>
      let text := (size?.getD "+0").toList
      if (newSize? text 0).isNone then
        let shown := String.ofList text
        complain speaker s!"Invalid number: '{shown}'"
        return 1
      if options.operands = [] then return ← misuse speaker "missing file operand" 1
      forEach options.operands fun path => do
        let tree ← files
        if options.has 'c' && !tree.exists? path then return 0
        match ← existingFile path with
        | .error error =>
          complain speaker s!"cannot open '{path}' for writing: {error.reason}"
          return 1
        | .ok location =>
          match (← files).get? location with
          | some (.file content mode) =>
            let size := (newSize? text ((base.join).getD content.size)).getD 0
            let kept := content.data.toList.take size
            let bytes := kept ++ List.replicate (size - kept.length) 0
            setFiles ((← files).put location (.file ⟨bytes.toArray⟩ mode))
          | _ => pure ()
          return 0

/-- The characters of names that are made up. -/
def nameLetters : List Char :=
  "abcdefghijklmnopqrstuvwxyzABCDEFGHIJKLMNOPQRSTUVWXYZ0123456789".toList

/-- A name of some length that goes with a number. -/
def madeUpName : (length number : Nat) → List Char
  | 0, _ => []
  | length + 1, number =>
    nameLetters.getD (number % nameLetters.length) 'a' ::
      madeUpName length (number * 31 / 7 + length * 17 + 11)

/-- Makes a file or a directory of a name that nothing has. -/
def mktemp : Utility :=
  let grammar : Grammar := {
    flags := "duqt", valued := "pS"
    optional := "#"
    long := [("directory", 'd'), ("dry-run", 'u'), ("quiet", 'q'), ("suffix", 'S'),
      ("tmpdir", '#')] }
  withOptions grammar 1 fun speaker options => do
    let place := ((← valueOf? "TMPDIR").filter (· ≠ "")).getD "/tmp"
    let inPlace := options.operands = [] || options.has 't' || options.has '#'
    let directory := match options.value? 'p' <|> (options.value? '#').filter (· ≠ "") with
      | some directory => some directory
      | none => if inPlace then some place else none
    match options.operands with
    | _ :: _ :: _ => misuse speaker "too many templates" 1
    | operands =>
      let template := (operands.headD "tmp.XXXXXXXXXX").toList
      let (start, ending) := match options.value? 'S' with
        | some suffix => (template, suffix.toList)
        | none =>
          let ending := (template.reverse.takeWhile (· ≠ 'X')).reverse
          (template.take (template.length - ending.length), ending)
      let marks := (start.reverse.takeWhile (· = 'X')).length
      if marks < 3 then
        let shown := String.ofList template
        complain speaker s!"too few X's in template '{shown}'"
        return 1
      let stem := start.take (start.length - marks)
      let named (marked : List Char) : String :=
        let name := String.ofList (stem ++ marked ++ ending)
        (directory.map fun directory => Path.join directory name).getD name
      let path := named (madeUpName marks (← freshNumber))
      let template := named (List.replicate marks 'X')
      let kind := if options.has 'd' then "directory" else "file"
      let status ←
        if options.has 'u' then pure 0
        else if options.has 'd' then
          change speaker s!"failed to create {kind} via template '{template}'" (·.makeDirectory path)
        else
          change speaker s!"failed to create {kind} via template '{template}'" fun tree => do
            let made ← tree.write path ⟨#[]⟩
            let (location, _) ← made.locate path
            return made.put location (.file ⟨#[]⟩ ⟨0o600⟩)
      if status = 0 then
        let _ ← print (path ++ "\n")
      return status

/-! ## Removing -/

/-- Asks a question and reads a line, which says yes if it begins with that letter. -/
def isConfirmed (question : String) : Run Bool := do
  let _ ← write 2 question.toUTF8.toList
  match ← takeInput 0 with
  | .error _ => return false
  | .ok (bytes, _) =>
    let line := bytes.takeWhile (· ≠ 10)
    giveBack 0 (bytes.drop (line.length + 1))
    return line.head? = some 121 || line.head? = some 89

/-- Removes what is below a location, and the location. -/
def removeTree (tree : FileSystem) (location : Location) : FileSystem :=
  { tree with nodes := tree.nodes.filter fun entry => !location.isPrefixOf entry.1 }

/-- The last name of a path as it is written, without slashes behind it. -/
def lastName (path : String) : String :=
  let kept := ((path.toList.reverse.dropWhile (· = '/')).takeWhile (· ≠ '/')).reverse
  if kept = [] && path ≠ "" then "/" else String.ofList kept

/-- The options of removing. -/
def removeGrammar : Grammar where
  flags := "rRfdvi"
  optional := "#"
  long := [("recursive", 'r'), ("force", 'f'), ("dir", 'd'), ("verbose", 'v'),
    ("interactive", '#'), ("one-file-system", '#'), ("preserve-root", '#'),
    ("no-preserve-root", '#')]

/-- Removes a directory and what is below it, and says so if asked to. -/
def removeBelow (options : Options) (path : String) (location : Location) : Run Unit := do
  let tree ← files
  let below := (tree.nodes.filter fun entry =>
    location.isPrefixOf entry.1 && entry.1 ≠ location).reverse
  for (found, node) in below do
    let name := Path.join path ("/".intercalate (found.drop location.length))
    report options (if node matches .directory then s!"removed directory '{name}'"
      else s!"removed '{name}'")
  setFiles (removeTree tree location)
  report options s!"removed directory '{path}'"

/-- Removes files and, if asked to, directories. -/
def rm : Utility := withOptions removeGrammar 1 fun speaker options => do
  let forced := (options.chosen.filter fun entry => entry.1 = 'f' || entry.1 = 'i').getLast?.map
    Prod.fst = some 'f'
  if options.operands = [] && !options.has 'f' then return ← misuse speaker "missing operand" 1
  let recursive := options.has 'r' || options.has 'R'
  let asks (question : String) : Run Bool :=
    if options.has 'i' && !forced then isConfirmed s!"{speaker}: {question}? " else return true
  forEach options.operands fun path => do
    let tree ← files
    match tree.locate path with
    | .error error =>
      if options.has 'f' && (error = .notFound || error = .notADirectory) then return 0
      complain speaker s!"cannot remove '{path}': {error.reason}"
      return 1
    | .ok (location, .file content _) =>
      let kind := if content.size = 0 then "regular empty file" else "regular file"
      if ← asks s!"remove {kind} '{path}'" then
        setFiles (tree.remove location)
        report options s!"removed '{path}'"
      return 0
    | .ok (location, .directory) =>
      let name := lastName path
      if recursive && location = [] then
        complain speaker "it is dangerous to operate recursively on '/'"
        complain speaker "use --no-preserve-root to override this failsafe"
        return 1
      else if recursive && (name = "." || name = "..") then
        complain speaker s!"refusing to remove '.' or '..' directory: skipping '{path}'"
        return 1
      else if recursive then
        if ← asks s!"remove directory '{path}'" then removeBelow options path location
        return 0
      else if options.has 'd' then
        let error : IoError := .directoryNotEmpty
        if tree.children location ≠ [] then
          complain speaker s!"cannot remove '{path}': {error.reason}"
          return 1
        setFiles (tree.remove location)
        report options s!"removed directory '{path}'"
        return 0
      else
        complain speaker s!"cannot remove '{path}': {IoError.isADirectory.reason}"
        return 1

end StepGraph.Shell.Utility
