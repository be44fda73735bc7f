import StepGraph.Shell.Builtin

/-! Running commands. What a command consists of is run by the function that runs
commands, which is handed down; `run` ties the knot and bounds the nesting. The
stages of a pipeline run one after another, each on what the one before has
printed. -/
namespace StepGraph.Shell
open Run Expansion

namespace Evaluation

/-! ## Redirections -/

/-- Opens a file to read. -/
def openToRead (path : String) : Run (Except IoError Nat) := do
  let isDevice := ["/dev/null", "/dev/zero", "/dev/stdin"].contains path
  match (← files).locate path, isDevice with
  | .ok (location, .file content _), false =>
    return .ok (← openChannel (.file location (some 0) ⟨true, false, content⟩))
  | _, _ =>
    match ← inputAt path with
    | .error .isADirectory => return .ok (← openChannel .directory)
    | .error error => return .error error
    | .ok (bytes, forever) => return .ok (← openChannel (.input bytes forever))

/-- How a file is opened to write. -/
inductive Writing
  /-- From its beginning; what is there is dropped. -/
  | anew
  /-- Like `anew`, unless there is a file. -/
  | onlyNew
  | atEnd
  /-- From its beginning; what is there stays until it is written upon. -/
  | upon

/-- Opens a file to write. -/
def openToWrite (writing : Writing) (path : String) : Run (Except IoError Nat) := do
  let standard (descriptor : Nat) : Run (Except IoError Nat) := do
    match ← channel? descriptor with
    | some (index, _) => return .ok index
    | none => return .error .notFound
  if path = "/dev/null" then return .ok (← openChannel .discard)
  else if path = "/dev/stdout" then standard 1
  else if path = "/dev/stderr" then standard 2
  else
    let opened (location? : Except IoError Location) (offset : Option Nat) :
        Run (Except IoError Nat) := do
      match location? with
      | .error error => return .error error
      | .ok location =>
        let access : Access := ⟨writing matches .upon, true, ⟨#[]⟩⟩
        return .ok (← openChannel (.file location offset access))
    match writing with
    | .anew => opened (← emptyFile path) (some 0)
    | .atEnd => opened (← existingFile path) none
    | .upon => opened (← existingFile path) (some 0)
    | .onlyNew =>
      match (← files).locate path with
      | .ok (_, .file ..) => return .error .alreadyExists
      | _ => opened (← emptyFile path) (some 0)

/-- Makes a descriptor stand for a file that was opened, or complains. -/
def redirectTo (descriptor : Nat) (path purpose missing : String) (opened : Except IoError Nat) :
    Run Bool := do
  match opened with
  | .ok index => setDescriptor descriptor index; return true
  | .error error =>
    let reason := if error = .notFound then missing else error.reason
    grumble s!"cannot {purpose} {path}: {reason}"
    return false

/-- Redirects a descriptor, and says whether that was possible. -/
def redirect (execute : Execute) (redirect : Redirect) : Run Bool := do
  let text (word : Word) : Run String := word.text (outputOf execute)
  match redirect.kind with
  | .read word =>
    let path ← text word
    redirectTo redirect.descriptor path "open" "No such file" (← openToRead path)
  | .write replacing word =>
    write text word (if !replacing && (← process).has 'C' then .onlyNew else .anew)
  | .append word => write text word .atEnd
  | .update word => write text word .upon
  | .document word =>
    let index ← openChannel (.input (← text word).toUTF8.toList [])
    setDescriptor redirect.descriptor index
    return true
  | .duplicate word =>
    let source ← text word
    if source = "-" then
      closeDescriptor redirect.descriptor
      return true
    match Utility.number? source with
    | none => grumble "Syntax error: Bad fd number"; exitWith 2
    | some number =>
      match ← channel? number with
      | some (index, _) => setDescriptor redirect.descriptor index; return true
      | none => grumble s!"{source}: Bad file descriptor"; return false
where
  write (text : Word → Run String) (word : Word) (writing : Writing) : Run Bool := do
    let path ← text word
    redirectTo redirect.descriptor path "create" "Directory nonexistent" (← openToWrite writing path)

/-- Redirects descriptors until one cannot be. -/
def redirectAll (execute : Execute) : List Redirect → Run Bool
  | [] => return true
  | first :: rest => do
    if ← redirect execute first then redirectAll execute rest else return false

/-- Makes the descriptors stand for channels again. -/
def restore (descriptors : List (Nat × Nat)) : Run Unit :=
  changeProcess fun process => { process with descriptors }

/-! ## Signals and failures -/

/-- Looks at failures: runs something whose failure does not end the shell. -/
def guarded (body : Run Unit) : Run Bool := do
  let outer := (← process).guarded
  changeProcess fun process => { process with guarded := true }
  ensuring body (changeProcess fun process => { process with guarded := outer })
  return (← process).status = 0

/-- Ends a strict shell at a failure. -/
def settle : Run Unit := do
  let process ← process
  if process.strict && !process.guarded && process.status ≠ 0 then throw .exit

/-- Does what was set for the signals that have arrived. -/
def attend (execute : Execute) : Run Unit := do
  let arrived := (← process).arrived
  changeProcess fun process => { process with arrived := [] }
  for signal in arrived do
    match (← process).traps.lookup signal with
    | some action =>
      let status := (← process).status
      runScript execute action
      setStatus status
    | none => pure ()

/-! ## Programs -/

/-- The search path of a shell that is not told of one. -/
def defaultSearchPath : String :=
  "/usr/local/sbin:/usr/local/bin:/usr/sbin:/usr/bin:/sbin:/bin"

/-- Gives the variables that every shell has their first values. -/
def setUp : Run Unit := do
  let process ← process
  let prompts := [("PS1", "# "), ("PS2", "> "), ("PS4", "+ "), ("PATH", defaultSearchPath)]
  for (name, value) in prompts do
    if (← valueOf? name).isNone then bind name (.plain value)
  bind "IFS" (.plain " \t\n")
  bind "OPTIND" (.plain "1")
  bind "PPID" (.plain (Text.Decimal.text (process.around.headD callerNumber)))
  Utility.exportVariable "PWD" (FileSystem.absoluteText (← files).cwd)

/-- Turns the options on that letters stand for. -/
def setLetters (letters : List Char) : Run Unit := do
  for letter in letters do
    if letter ≠ 'c' then
      if !(← Builtin.setOption true letter) then
        grumble s!"Illegal option -{letter}"
        exitWith 2

/-- Takes the options off the arguments of the shell. -/
def takeOptions : List String → Run (List Char × List String)
  | [] => return ([], [])
  | "--" :: rest => return ([], rest)
  | "-o" :: name :: rest => do Builtin.setLongOption "" true name; takeOptions rest
  | "+o" :: name :: rest => do Builtin.setLongOption "" false name; takeOptions rest
  | argument :: rest => do
    match argument.toList with
    | '-' :: c :: cs =>
      setLetters (c :: cs)
      let (letters, operands) ← takeOptions rest
      return (c :: cs ++ letters, operands)
    | '+' :: _ :: _ => takeOptions rest
    | _ => return ([], argument :: rest)

/-- Runs a shell in this process. -/
def shell (execute : Execute) (name : String) (arguments : List String) : Run Unit := do
  changeProcess fun process =>
    { process with
      name, line := 0, parameters := [], functions := [], status := 0, guarded := false
      options := [], traps := process.traps.filter (·.2 = ""), arrived := [], hidden := []
      hiddenOptions := none, loops := 0, calls := 0, known := [], aliases := []
      place := .start, isCopy := false, table := [], latest := none }
  setUp
  let (letters, operands) ← takeOptions arguments
  let start (name : String) (parameters : List String) (text : String) : Run Unit := do
    changeProcess fun process => { process with name, parameters, line := 1 }
    toTheEnd execute (runScript execute text)
  if letters.contains 'c' then
    match operands with
    | [] =>
      grumble "-c requires an argument"
      exitWith 2
    | text :: operands => start (operands.headD name) (operands.drop 1) text
  else
    match letters.contains 's', operands with
    | true, _ | _, [] =>
      let supply := (← takeInput 0).toOption.getD ([], [])
      start name operands (Text.Utf8.lossy supply.1)
    | false, path :: operands =>
      match (← files).read path with
      | .ok content => start path operands (Text.Utf8.lossy content.data.toList)
      | .error .isADirectory => setStatus 0
      | .error error =>
        let reason := if error = .notFound || error = .notADirectory then "No such file"
          else error.reason
        grumble s!"cannot open {path}: {reason}"
        exitWith 2

mutual

/-- Runs a program in this process. `fuel` bounds how often programs run one another,
here and below. -/
def enter (execute : Execute) : (fuel : Nat) → Executable → (arguments : List String) → Run Unit
  | 0, _, _ => hang
  | fuel + 1, found, arguments => do
    let arguments := found.leading ++ arguments
    match found.program with
    | .shell => shell execute found.name arguments
    | .utility utility => setStatus (← utility found.name arguments)
    | .runner runner => setStatus (← runner (starter execute fuel) found.name arguments)

/-- Runs a program in a process of its own, which knows only the variables that
programs are told of, and which is a shell of its own if the program is one. A signal
ends only that shell. -/
def apart (execute : Execute) :
    (fuel : Nat) → Executable → (arguments : List String) → Run Unit
  | 0, _, _ => hang
  | fuel + 1, found, arguments => do
    let number ← freshNumber
    let flow ← caught <| inProcess do
      changeProcess fun process =>
        { process with
          number, around := process.number :: process.around, isCopy := false
          bindings := process.bindings.filter fun entry => entry.2.exported && entry.2.value.isSome }
      enter execute fuel found arguments
    match flow with
    | none => pure ()
    | some (.killed shell signal) =>
      if shell ≠ number then throw (.killed shell signal)
      announceSignal signal
      setStatus (signalStatus signal)
    | some flow => throw flow

/-- Starts programs for a program. -/
def starter (execute : Execute) : (fuel : Nat) → Starter
  | 0 => ⟨fun _ _ => hang, fun _ _ => hang⟩
  | fuel + 1 =>
    let findAnd (run : Executable → List String → Run Unit) (name : String)
        (arguments : List String) : Run (Except IoError Unit) := do
      let searchPath := (← valueOf? "PATH").getD "/bin:/usr/bin"
      match Executable.find true (← files) searchPath name with
      | .error error => return .error error
      | .ok found =>
        run found arguments
        return .ok ()
    ⟨findAnd (apart execute fuel), findAnd (enter execute fuel)⟩

end

/-- Programs run one another no deeper than this. -/
def programDepth : Nat := 2000

/-- The paths that are tried for a name, in order, or why there are none. -/
def candidates (tree : FileSystem) (searchPath name : String) : Except IoError (List String) :=
  if name.toList.contains '/' then .ok [name]
  else
    let paths := (Executable.directories searchPath).map (Executable.inDirectory name)
    match paths.dropWhile (!Executable.isCandidate tree ·) with
    | [] =>
      if paths.any tree.exists? then .error .permissionDenied
      else if FileSystem.nameLimit < name.utf8ByteSize then .error .invalidFilename
      else .error .notFound
    | found => .ok found

/-- The first program among some paths, or what is most to blame that there is none. -/
def firstProgram (tree : FileSystem) (name : String) (blamed : IoError) :
    List String → Except IoError Executable
  | [] => .error blamed
  | path :: rest =>
    match Executable.atPath true tree Executable.chainLimit name path with
    | .ok found => .ok found
    | .error error =>
      firstProgram tree name
        (if error = .notFound || error = .notADirectory then blamed else error) rest

/-- The status of a program that cannot be run. -/
def refusalStatus (error : IoError) : Nat :=
  match error with
  | .notFound | .notADirectory | .endlessChain | .invalidFilename => 127
  | _ => 126

/-- Starts a program and waits for it. Complaints about its name begin with
`label`. -/
def start (execute : Execute) (label name : String) (arguments : List String) : Run Nat := do
  let tree ← files
  let refuse (error : IoError) (status : Nat) : Run Nat := do
    let reason := if error = .notFound || error = .notADirectory then "not found"
      else error.reason
    grumble s!"{label}{name}: {reason}"
    return status
  match candidates tree (← Builtin.searchPath) name with
  | .error error => refuse error 127
  | .ok paths =>
    if !name.toList.contains '/' then
      paths.head?.forM (Builtin.remember name)
    match firstProgram tree name .notFound paths with
    | .error error => refuse error (refusalStatus error)
    | .ok found =>
      apart execute programDepth found arguments
      return (← process).status

/-! ## Simple commands -/

/-- Runs a function on arguments. -/
def call (execute : Execute) (body : Command) (arguments : List String) : Run Unit := do
  let outer ← process
  changeProcess fun process =>
    { process with
      parameters := arguments, hidden := [], hiddenOptions := none, loops := 0
      calls := process.calls + 1, place := .start }
  let flow ← caught (execute body)
  let inner ← process
  for (name, old) in inner.hidden do
    unsetVariable name
    old.forM (bind name)
  changeProcess fun process =>
    { process with
      parameters := outer.parameters, hidden := outer.hidden, loops := outer.loops
      options := inner.hiddenOptions.getD process.options, hiddenOptions := outer.hiddenOptions
      calls := outer.calls, place := outer.place }
  match flow with
  | none | some .finish => pure ()
  | some flow => throw flow

/-- Prints what is about to run, if an option asks for it. `descriptors` are those from
before the redirections of the command. -/
def trace (descriptors : List (Nat × Nat)) (values : List (String × String))
    (fields : List String) : Run Unit := do
  let process ← process
  if process.has 'x' && (values ≠ [] || fields ≠ []) then
    let words := values.map (fun (name, value) => s!"{name}={value}") ++ fields
    let line := (← valueOf? "PS4").getD "" ++ " ".intercalate words ++ "\n"
    let inner := process.descriptors
    restore descriptors
    let _ ← Run.write 2 line.toUTF8.toList
    restore inner

/-- Runs a command of the shell's own, without being special, or a program. -/
def runOrdinary (execute : Execute) (name : String) (arguments : List String) : Run Unit := do
  match ← Builtin.regular? name arguments with
  | some status => setStatus status
  | none => setStatus (← start execute "" name arguments)

/-- Runs a command by its name, but not a function. -/
def runCommand (execute : Execute) : List String → Run Unit
  | [] => setStatus 0
  | "-p" :: rest => runCommand execute rest
  | "--" :: rest => runCommand execute rest
  | "-v" :: name :: _ => do setStatus (← Builtin.describe name)
  | "-V" :: name :: _ => do setStatus (← Builtin.explain name)
  | name :: arguments => do
    match name.toList with
    | '-' :: letter :: _ =>
      setStatus (← Builtin.blamed "command" s!"Illegal option -{letter}")
    | _ =>
      if Builtin.special.contains name then
        Builtin.runSpecial execute (start execute "exec: ") name arguments
      else runOrdinary execute name arguments

/-- Runs a command by its name: a special one, a function, another one of the
shell's own, or a program. -/
def invoke (execute : Execute) (name : String) (arguments : List String) : Run Unit := do
  if Builtin.special.contains name then
    Builtin.runSpecial execute (start execute "exec: ") name arguments
  else
    match (← process).functions.lookup name with
    | some body => call execute body arguments
    | none =>
      if name = "command" then runCommand execute arguments
      else runOrdinary execute name arguments

/-- Makes assignments one after another, and gives the values. -/
def assignAll (execute : Execute) (exporting : Bool) (assignments : List (String × Word)) :
    Run (List (String × String)) :=
  assignments.mapM fun (name, word) => do
    let value ← (← word.withHomes true).text (outputOf execute)
    assign name value
    if exporting then Utility.markExported name
    return (name, value)

/-- Gives variables back what they were. -/
def putBack (names : List String) (old : List (String × Variable)) : Run Unit := do
  for name in names do
    match old.lookup name with
    | some held => bind name held
    | none => unsetVariable name

/-- Runs a simple command: its words are expanded, its descriptors are redirected,
and its variables are set, in this order. -/
def simple (execute : Execute) (line : Nat) (assignments : List (String × Word))
    (words : List Word) (redirects : List Redirect) : Run Unit := do
  changeProcess fun process => { process with line, substituted := none }
  let fields := (← words.mapM fun word => word.fields (outputOf execute)).flatten
  let outer := (← process).descriptors
  if !(← redirectAll execute redirects) then
    restore outer
    setStatus 2
    if (fields.head?.map Builtin.special.contains).getD false then throw .exit
  else
    match fields with
    | [] =>
      let values ← assignAll execute false assignments
      trace outer values []
      restore outer
      setStatus ((← process).substituted.getD 0)
    | name :: arguments =>
      let lasting := Builtin.special.contains name
      let old := (← process).bindings
      let values ← assignAll execute (!lasting) assignments
      trace outer values fields
      if name = "exec" && arguments = [] then setStatus 0
      else
        ensuring (invoke execute name arguments) do
          restore outer
          if !lasting then putBack (assignments.map Prod.fst) old
  checkClock
  attend execute
  settle

/-! ## Compound commands -/

/-- Runs what is repeated, inside one more loop. -/
def insideLoop (body : Run Unit) : Run (Option Flow) := do
  changeProcess fun process => { process with loops := process.loops + 1 }
  let flow ← caught body
  changeProcess fun process => { process with loops := process.loops - 1 }
  return flow

/-- Takes turns in a loop for as long as a test holds; `most` bounds them. -/
def turns (test : Run Bool) (body : Run Unit) : (most : Nat) → (status : Nat) → Run Unit
  | 0, _ => hang
  | most + 1, status => do
    if ← test then
      match ← insideLoop body with
      | none | some (.again 0) | some (.again 1) => turns test body most (← process).status
      | some (.again (levels + 2)) => throw (.again (levels + 1))
      | some (.leave (levels + 2)) => throw (.leave (levels + 1))
      | some (.leave _) => pure ()
      | some flow => throw flow
    else setStatus status

/-- More turns than loops take that end in time. -/
def manyTurns : Nat := 100000

/-- Takes a turn for each of some values. -/
def eachOf (name : String) (body : Run Unit) : List String → Run Unit
  | [] => pure ()
  | value :: rest => do
    assign name value
    match ← insideLoop body with
    | none | some (.again 0) | some (.again 1) => eachOf name body rest
    | some (.again (levels + 2)) => throw (.again (levels + 1))
    | some (.leave (levels + 2)) => throw (.leave (levels + 1))
    | some (.leave _) => pure ()
    | some flow => throw flow

/-- Runs the arm whose pattern matches a text first. -/
def selectArm (execute : Execute) (text : String) : List (List Word × Command) → Run Unit
  | [] => setStatus 0
  | (patterns, body) :: rest => do
    let fits ← patterns.anyM fun word => do
      let pattern := Pattern.ofGlyphs (← word.glyphs (outputOf execute))
      return Pattern.covers pattern text.toList
    if fits then
      setStatus 0
      execute body
    else selectArm execute text rest

/-- Runs the stages of a pipeline, each with what the one before has printed for
its input. All of them begin at the same time. -/
def stages (execute : Execute) (began : Nat) (input : Option Nat) : List Command → Run Unit
  | [] => pure ()
  | stage :: rest => do
    let output ← if rest.isEmpty then pure none else some <$> openChannel (.output [] [])
    let before := (← machine).clock
    changeMachine fun machine => { machine with clock := began }
    inProcess <| toTheEnd execute do
      match input with
      | some index => setDescriptor 0 index
      | none => pure ()
      match output with
      | some index => setDescriptor 1 index
      | none => pure ()
      execute stage
    changeMachine fun machine => { machine with clock := max machine.clock before }
    match output with
    | none => pure ()
    | some index =>
      match (← machine).channels[index]? with
      | some (.output chunks forever) =>
        setChannel index (.input (inOrder chunks).flatten forever)
      | _ => pure ()
    stages execute began output rest

/-- How many microseconds pass until a command in the background begins. -/
def startingTime : Nat := 1

/-- The first place in the table of jobs that is free, or whose job has ended and been
waited for. -/
def freePlace (machine : Machine) (table : List Entry) : Nat :=
  let hasEnded (number : Nat) : Bool :=
    machine.jobs.any fun job => job.number = number && job.ends ≤ machine.clock
  let isTaken (place : Nat) : Bool :=
    table.any fun entry => entry.place = place && !(entry.awaited && hasEnded entry.number)
  (((List.range (table.length + 1)).map (· + 1)).find? (!isTaken ·)).getD (table.length + 1)

/-- Runs a command in the background: it does its work, and time does not pass for
the shell. -/
def inBackground (execute : Execute) (command : Command) : Run Unit := do
  let before ← machine
  let number ← freshNumber
  let nothing ← openChannel (.input [] [])
  changeMachine fun machine => { machine with clock := machine.clock + startingTime }
  let flow ← caught <| inProcess <| toTheEnd execute do
    setDescriptor 0 nothing
    changeProcess fun process => { process with job := process.job <|> some number }
    execute command
  let after ← machine
  let ends := match flow with
    | none => after.clock
    | some _ => max after.clock before.deadline
  let job : Job := ⟨number, ends, (← process).status, none⟩
  changeMachine fun machine =>
    { machine with clock := before.clock, jobs := machine.jobs ++ [job] }
  changeProcess fun process =>
    let place := freePlace before process.table
    let others := process.table.filter (·.place ≠ place)
    { process with
      status := 0, latest := some number, table := others ++ [⟨place, number, false⟩] }

/-- Runs a command whose parts are run by `execute`. -/
def perform (execute : Execute) : Command → Run Unit
  | .simple line assignments words => simple execute line assignments words []
  | .redirected (.simple line assignments words) redirects =>
    simple execute line assignments words redirects
  | .redirected command redirects => do
    let outer := (← process).descriptors
    if ← redirectAll execute redirects then ensuring (execute command) (restore outer)
    else
      restore outer
      setStatus 2
      settle
  | .pipeline commands => do
    stages execute (← machine).clock none commands
    checkClock
    attend execute
    settle
  | .negated command => do
    let ok ← guarded (execute command)
    setStatus (if ok then 1 else 0)
  | .both first second => do if ← guarded (execute first) then execute second
  | .either first second => do if !(← guarded (execute first)) then execute second
  | .sequence commands => commands.forM execute
  | .background command => inBackground execute command
  | .choice test yes no => do
    if ← guarded (execute test) then execute yes
    else
      match no with
      | .sequence [] => setStatus 0
      | no => execute no
  | .loop stopsOnSuccess test body =>
    turns (do return (← guarded (execute test)) != stopsOnSuccess) (execute body) manyTurns 0
  | .each name words body => do
    let values ← match words with
      | none => do pure (← process).parameters
      | some words => do
        pure (← words.mapM fun word => word.fields (outputOf execute)).flatten
    setStatus 0
    eachOf name (execute body) values
  | .select word arms => do
    let text ← word.text (outputOf execute)
    selectArm execute text arms
  | .subshell body => do
    inProcess (toTheEnd execute (execute body))
    checkClock
    attend execute
    settle
  | .define name body => do
    changeProcess fun process => { process with functions := (name, body) :: process.functions }
    setStatus 0

/-- Runs a command, unless an option says that commands are only read. -/
def step (execute : Execute) (command : Command) : Run Unit := do
  if !(← process).has 'n' then perform execute command

/-- Runs a command; `fuel` bounds the nesting. -/
def run : (fuel : Nat) → Command → Run Unit
  | 0, _ => hang
  | fuel + 1, command => step (run fuel) command

/-- More nesting than commands have. -/
def depth : Nat := 2000

end Evaluation
end StepGraph.Shell
