import StepGraph.Shell.Builtin.Basic

/-! Commands about signals and about what runs in the background. -/
namespace StepGraph.Shell.Builtin
open Run Expansion

/-- The number of a signal or, for `EXIT`, of the end of the shell. -/
def trapNumber? (name : String) : Option Nat :=
  if name.toUpper = "EXIT" then some 0 else Utility.signalNumber? name

/-- Lists what is done when signals arrive. -/
def listTraps : Run Unit := do
  let ordered := (← process).traps.mergeSort fun first second => first.1 ≤ second.1
  for (number, action) in ordered do
    let name := if number = 0 then "EXIT" else Utility.signalName number
    let _ ← print s!"trap -- {quoted action} {name}\n"

/-- Sets what is done when signals arrive. -/
def trap (arguments : List String) : Run Nat := do
  let change (action? : Option String) (names : List String) : Run Nat :=
    Utility.forEach names fun name => do
      match trapNumber? name with
      | none =>
        let _ ← write 2 s!"trap: {name}: bad trap\n".toUTF8.toList
        return 1
      | some number =>
        changeProcess fun process =>
          let others := process.traps.filter (·.1 ≠ number)
          { process with
            traps := (action?.map ((number, ·))).toList ++ others }
        return 0
  let arguments := if arguments.head? = some "--" then arguments.drop 1 else arguments
  match arguments with
  | [] => listTraps; return 0
  | "-" :: names => change none names
  | first :: rest =>
    match first.toList with
    | '-' :: letter :: _ => blameAndExit "trap" s!"Illegal option -{letter}"
    | _ =>
      if rest = [] then change none [first]
      else if (Utility.number? first).isSome then change none (first :: rest)
      else change (some first) rest

/-- The job of an entry. -/
def jobOf? (entry : Entry) : Run (Option Job) := do
  return (← machine).jobs.find? (·.number = entry.number)

/-- Lets time pass until a job has ended. -/
def await (job : Job) : Run Unit := do
  changeMachine fun machine => { machine with clock := max machine.clock job.ends }
  changeProcess fun process =>
    { process with
      table := process.table.map fun entry =>
        if entry.number = job.number then { entry with awaited := true } else entry }

/-- Waits for the end of a job, and gives its status. -/
def waitFor (job : Job) : Run Nat := do
  await job
  match job.signal with
  | some signal => announceSignal signal
  | none => pure ()
  return job.status

/-- What is said of a job in the table of jobs. -/
def stateText (job : Job) (clock : Nat) : String :=
  if clock < job.ends then "Running"
  else
    match job.signal with
    | some signal => (signalNotice signal).getD "Done"
    | none =>
      if job.status = 0 then "Done"
      else "Done(" ++ Text.Decimal.text job.status ++ ")"

/-- What is said of jobs is this wide. -/
def stateWidth : Nat := 33

/-- Lists the jobs, the latest first. Those that have ended are forgotten. -/
def listJobs : Run Unit := do
  let clock := (← machine).clock
  for entry in (← process).table.reverse do
    match ← jobOf? entry with
    | none => pure ()
    | some job =>
      let ended := job.ends ≤ clock
      let table := (← process).table
      let rank := table.reverse.idxOf? entry
      let mark := if rank = some 0 then "+" else if rank = some 1 then "-" else " "
      let text := s!"[{Text.Decimal.text entry.place}] {mark} {stateText job clock}"
      let _ ← print (text ++ "".pushn ' ' (stateWidth - text.length) ++ "\n")
      if ended then
        changeProcess fun process =>
          { process with table := process.table.filter (·.number ≠ entry.number) }

/-- Waits for what runs in the background. -/
def wait (arguments : List String) : Run Nat := do
  match arguments with
  | [] =>
    for entry in (← process).table do
      (← jobOf? entry).forM await
    return 0
  | arguments =>
    arguments.foldlM (fun _ text => do
      let table := (← process).table
      let entry? := match text.toList with
        | '%' :: place => Utility.entryOf? table place
        | _ => table.find? fun entry => Text.Decimal.text entry.number = text
      match entry? with
      | none => return 127
      | some entry =>
        match ← jobOf? entry with
        | none => return 127
        | some job => waitFor job) 0

end StepGraph.Shell.Builtin
