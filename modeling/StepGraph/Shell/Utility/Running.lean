import StepGraph.Shell.Utility.Options

/-! Utilities that run other programs. -/
namespace StepGraph.Shell.Utility
open Run

/-- Marks a variable as one that programs are told of. -/
def markExported (name : String) : Run Unit :=
  changeProcess fun process =>
    { process with
      bindings := process.bindings.map fun (found, held) =>
        (found, if found = name then { held with exported := true } else held) }

/-- Gives a variable a value that programs are told of. -/
def exportVariable (name value : String) : Run Unit := do
  setVariable name value
  markExported name

/-- The place of a name in a table of a size; names are listed in the order of their
places. -/
def tablePlace (size : Nat) (name : String) : Nat :=
  let bytes := name.toUTF8.toList.map UInt8.toNat
  bytes.foldl (· + ·) (16 * bytes.headD 0) % size

/-- The size of the table of variables. -/
def variableTableSize : Nat := 39

/-- The variables that programs are told of, with their values, in the order in which
they are told. -/
def exportedVariables : Run (List (String × String)) := do
  let told := (← process).bindings.filterMap fun (name, held) =>
    if held.exported then held.value.map (name, ·) else none
  return told.mergeSort fun first second =>
    tablePlace variableTableSize first.1 ≤ tablePlace variableTableSize second.1

/-- Takes the assignments off the arguments of a program that runs another one in
an environment of its own. -/
def environmentOf : List String → List (String × String) × List String
  | [] => ([], [])
  | argument :: rest =>
    match assignmentIn argument with
    | (name, some value) =>
      let (assignments, command) := environmentOf rest
      ((name, value) :: assignments, command)
    | (_, none) => ([], argument :: rest)

/-- The status of a program that cannot be started. -/
def unstartedStatus (error : IoError) : Nat := if error = .notFound then 127 else 126

/-- Runs a program in place of the one that is running, or complains. -/
def replaceBy (starter : Starter) (complaint : String → IoError → Run Unit) (name : String)
    (arguments : List String) : Run Nat := do
  match ← starter.inPlace name arguments with
  | .ok _ => return (← process).status
  | .error error =>
    complaint name error
    return unstartedStatus error

/-- Runs a program in an environment of its own, or prints the environment. -/
def env (starter : Starter) : Utility :=
  let grammar : Grammar := {
    flags := "i0v", valued := "uC", inFront := true
    long := [("ignore-environment", 'i'), ("null", '0'), ("unset", 'u'), ("chdir", 'C')] }
  withOptions grammar 125 fun speaker options => do
    let bare := options.operands.head? = some "-"
    let operands := if bare then options.operands.drop 1 else options.operands
    if bare || options.has 'i' then changeProcess fun process => { process with bindings := [] }
    for (letter, value) in options.chosen do
      if letter = 'u' then unsetVariable value
    let (assignments, command) := environmentOf operands
    for (name, value) in assignments do
      exportVariable name value
    match options.value? 'C' with
    | none => pure ()
    | some path =>
      match (← files).locate path with
      | .ok (location, .directory) => setFiles { (← files) with cwd := location }
      | .ok (_, .file ..) =>
        complain speaker s!"cannot change directory to '{path}': {IoError.notADirectory.reason}"
        return 125
      | .error error =>
        complain speaker s!"cannot change directory to '{path}': {error.reason}"
        return 125
    match command with
    | [] =>
      for (name, value) in ← exportedVariables do
        let ending := if options.has '0' then "\x00" else "\n"
        let _ ← print s!"{name}={value}{ending}"
      return 0
    | program :: arguments =>
      let complaint (name : String) (error : IoError) := complain speaker s!"'{name}': {error.reason}"
      replaceBy starter complaint program arguments

/-- Runs a program and lets nothing else change. -/
def nohup (starter : Starter) : Utility := fun speaker arguments => do
  match arguments with
  | [] => misuse speaker "missing operand" 125
  | name :: arguments =>
    let complaint (name : String) (error : IoError) :=
      complain speaker s!"failed to run command '{name}': {error.reason}"
    replaceBy starter complaint name arguments

/-- Runs a program at another priority, which makes no difference here. -/
def nice (starter : Starter) : Utility :=
  withOptions { flags := "", valued := "n", long := [("adjustment", 'n')], inFront := true } 125
    fun speaker options => do
      match options.operands with
      | [] =>
        let _ ← print "0\n"
        return 0
      | name :: arguments =>
        let complaint (name : String) (error : IoError) :=
          complain speaker s!"'{name}': {error.reason}"
        replaceBy starter complaint name arguments

end StepGraph.Shell.Utility
