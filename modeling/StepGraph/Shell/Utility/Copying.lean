import StepGraph.Shell.Utility.Making

/-! Utilities that copy and move files and directories. -/
namespace StepGraph.Shell.Utility
open Run

/-- Where files go: each into a directory under its own name, or to one path. -/
inductive Goal
  | into (directory : String)
  | path (path : String)

/-- The path to which a source goes. -/
def Goal.of (goal : Goal) (source : String) : String :=
  match goal with
  | .into directory => Path.join directory (lastName source)
  | .path target => target

/-- The sources and the goal that options and operands name. -/
def goalOf (speaker : String) (options : Options) : Run (Except Nat (List String × Goal)) := do
  let refuse (message : String) : Run (Except Nat (List String × Goal)) := do
    return .error (← misuse speaker message 1)
  let fail (message : String) : Run (Except Nat (List String × Goal)) := do
    complain speaker message
    return .error 1
  let tree ← files
  let refusal (path : String) : IoError := match tree.locate path with
    | .error error => error
    | .ok _ => .notADirectory
  match options.value? 't', options.operands.reverse with
  | _, [] => refuse "missing file operand"
  | some directory, sources =>
    if tree.isDirectory directory then return .ok (sources.reverse, .into directory)
    else fail s!"target directory '{directory}': {(refusal directory).reason}"
  | none, [only] => refuse s!"missing destination file operand after '{only}'"
  | none, target :: sources =>
    let sources := sources.reverse
    if options.has 'T' then
      match options.operands.drop 2 with
      | extra :: _ => refuse s!"extra operand '{extra}'"
      | [] => return .ok (sources, .path target)
    else if tree.isDirectory target then return .ok (sources, .into target)
    else if 1 < sources.length then fail s!"target '{target}': {(refusal target).reason}"
    else return .ok (sources, .path target)

/-- The options of copying and moving. -/
def transferGrammar (flags : String) : Grammar where
  flags := flags
  valued := "tS"
  optional := "#"
  long := [("recursive", 'r'), ("archive", 'a'), ("force", 'f'), ("interactive", 'i'),
    ("no-clobber", 'n'), ("no-target-directory", 'T'), ("target-directory", 't'),
    ("update", '#'), ("verbose", 'v'), ("preserve", '#'), ("suffix", 'S')]

/-- What stands in the way of putting something in the place of what is there. -/
def obstacle? (options : Options) (speaker goal : String) (declined : Nat) : Run (Option Nat) := do
  let last := (options.chosen.filter fun entry => "fin".toList.contains entry.1).getLast?.map Prod.fst
  if last = some 'n' then
    if declined ≠ 0 then complain speaker s!"not replacing '{goal}'"
    return some declined
  else if last = some 'i' then
    if ← isConfirmed s!"{speaker}: overwrite '{goal}'? " then return none else return some 1
  else return none

/-! ## Copying -/

/-- Copies a file. -/
def copyFile (speaker : String) (options : Options) (source goal : String) (location : Location)
    (content : ByteArray) (mode : FileMode) : Run Nat := do
  let fail (message : String) : Run Nat := do
    complain speaker message
    return 1
  let tree ← files
  match tree.locate goal with
  | .ok (_, .directory) => fail s!"cannot overwrite directory '{goal}' with non-directory"
  | .error .notADirectory => fail s!"cannot stat '{goal}': {IoError.notADirectory.reason}"
  | .ok (there, .file _ kept) =>
    if there = location then return ← fail s!"'{source}' and '{goal}' are the same file"
    match ← obstacle? options speaker goal 0 with
    | some status => return status
    | none =>
      setFiles (tree.put there (.file content kept))
      report options s!"'{source}' -> '{goal}'"
      return 0
  | .error _ =>
    let mask := (← process).mask
    let keeps := options.has 'p' || options.has 'a'
    let bits := if keeps then mode.bits else mode.bits &&& (0o777 - mask)
    let made : Except IoError FileSystem := do
      if goal.endsWith "/" then throw .notADirectory
      let made ← tree.write goal content
      let (there, _) ← made.locate goal
      return made.put there (.file content ⟨bits⟩)
    match made with
    | .ok made =>
      setFiles made
      report options s!"'{source}' -> '{goal}'"
      return 0
    | .error error => fail s!"cannot create regular file '{goal}': {error.reason}"

/-- Copies a file or, with what is below it, a directory. `fuel` bounds the depth. -/
def copyAny (speaker : String) (options : Options) : (fuel : Nat) → (source goal : String) → Run Nat
  | 0, _, _ => return 1
  | fuel + 1, source, goal => do
    let tree ← files
    match tree.locate source with
    | .error error =>
      complain speaker s!"cannot stat '{source}': {error.reason}"
      return 1
    | .ok (location, .file content mode) =>
      copyFile speaker options source goal location content mode
    | .ok (location, .directory) =>
      if !"rRa".toList.any options.has then
        complain speaker s!"-r not specified; omitting directory '{source}'"
        return 1
      match tree.locate goal with
      | .ok (_, .file ..) =>
        complain speaker s!"cannot overwrite non-directory '{goal}' with directory '{source}'"
        return 1
      | found =>
        if !(found matches .ok _) then
          match tree.makeDirectory goal with
          | .error error =>
            complain speaker s!"cannot create directory '{goal}': {error.reason}"
            return 1
          | .ok made =>
            setFiles made
            report options s!"'{source}' -> '{goal}'"
        match (← files).locate goal with
        | .ok (there, _) =>
          if location.isPrefixOf there && location ≠ there then
            setFiles tree
            complain speaker s!"cannot copy a directory, '{source}', into itself, '{goal}'"
            return 1
        | .error _ => pure ()
        forEach (tree.children location) fun name =>
          copyAny speaker options fuel (Path.join source name) (Path.join goal name)

/-- Copies files. -/
def cp : Utility := withOptions (transferGrammar "rRafpvniTudxLPHl") 1 fun speaker options => do
  if options.has 'n' then
    complain speaker
      "warning: behavior of -n is non-portable and may change in future; use --update=none instead"
  match ← goalOf speaker options with
  | .error status => return status
  | .ok (sources, goal) =>
    forEach sources fun source => do
      copyAny speaker options ((← files).nodes.length + 1) source (goal.of source)

/-! ## Moving -/

/-- Puts what is at a location and below it below another one. -/
def relocated (tree : FileSystem) (source goal : Location) : FileSystem :=
  let moved := (tree.nodes.filter fun entry => source.isPrefixOf entry.1).map
    fun (location, node) => (goal ++ location.drop source.length, node)
  let rest := (removeTree (removeTree tree source) goal).nodes
  { tree with nodes := rest ++ moved }

/-- Moves a file or a directory. -/
def moveOne (speaker : String) (options : Options) (source goal : String) : Run Nat := do
  let fail (message : String) : Run Nat := do
    complain speaker message
    return 1
  let tree ← files
  match tree.locate source with
  | .error error => fail s!"cannot stat '{source}': {error.reason}"
  | .ok (location, node) =>
    let isDirectory := node matches .directory
    let name := lastName source
    if isDirectory && (name = "." || name = ".." || location = []) then
      return ← fail s!"cannot move '{source}' to '{goal}': {IoError.resourceBusy.reason}"
    match tree.locate goal with
    | .error .notADirectory => fail s!"cannot stat '{goal}': {IoError.notADirectory.reason}"
    | .error _ =>
      let route : Except IoError Location := do
        let route ← tree.route goal
        if route.endsWithSlash && !isDirectory then throw .notADirectory
        let there ← route.location tree
        return there
      match route with
      | .error error => fail s!"cannot move '{source}' to '{goal}': {error.reason}"
      | .ok there =>
        if isDirectory && location.isPrefixOf there then
          return ← fail s!"cannot move '{source}' to a subdirectory of itself, '{goal}'"
        setFiles (relocated tree location there)
        report options s!"renamed '{source}' -> '{goal}'"
        return 0
    | .ok (there, found) =>
      if there = location then return ← fail s!"'{source}' and '{goal}' are the same file"
      match isDirectory, found with
      | true, .file .. =>
        return ← fail s!"cannot overwrite non-directory '{goal}' with directory '{source}'"
      | false, .directory =>
        return ← fail s!"cannot overwrite directory '{goal}' with non-directory"
      | true, .directory =>
        if location.isPrefixOf there then
          return ← fail s!"cannot move '{source}' to a subdirectory of itself, '{goal}'"
        if tree.children there ≠ [] then
          return ← fail s!"cannot overwrite '{goal}': {IoError.directoryNotEmpty.reason}"
      | false, .file .. => pure ()
      match ← obstacle? options speaker goal 1 with
      | some status => return status
      | none =>
        setFiles (relocated tree location there)
        report options s!"renamed '{source}' -> '{goal}'"
        return 0

/-- Moves files and directories. -/
def mv : Utility := withOptions (transferGrammar "fvniTu") 1 fun speaker options => do
  match ← goalOf speaker options with
  | .error status => return status
  | .ok (sources, goal) =>
    forEach sources fun source => moveOne speaker options source (goal.of source)

end StepGraph.Shell.Utility
