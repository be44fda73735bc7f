import StepGraph.FileSystem.Basic
import StepGraph.Shell.Command
import StepGraph.Text.Decimal

/-! What programs run on. Processes share the files, a clock and channels for
bytes; a process has variables and descriptors of its own, each descriptor
standing for a channel. Time passes only while a program sleeps. What a program
waits for has been written in full before the program runs, so that programs can
be run one after another. -/
namespace StepGraph.Shell

/-- Bytes that were written at once. -/
structure Chunk where
  time : Nat
  /-- The number of the job that wrote them, if one did. -/
  job : Option Nat
  bytes : List UInt8

/-- What may be done with a file that is open. -/
structure Access where
  reads : Bool
  writes : Bool
  /-- What the file held when it was opened. That can be read even if the file has been
  taken away. -/
  held : ByteArray

/-- Where bytes come from or go to. Some input never ends: `forever` comes again
and again behind the bytes. -/
inductive Channel
  | input (bytes forever : List UInt8)
  /-- The chunks written so far, the latest first, and what is written again and again
  behind them. -/
  | output (chunks : List Chunk) (forever : List UInt8)
  /-- A file that is read or written, and where the next byte comes from or goes to;
  without a place, it goes to the end. -/
  | file (location : Location) (offset : Option Nat) (access : Access)
  /-- A directory, of which no byte can be read. -/
  | directory
  | discard

/-- The chunks of a channel in the order of their times. Those of one time stay in the
order in which they were written. -/
def inOrder (chunks : List Chunk) : List (List UInt8) :=
  (chunks.reverse.mergeSort fun first second => first.time ≤ second.time).map Chunk.bytes

/-- A channel without what a job has written after a time. -/
def Channel.cutShort (job time : Nat) : Channel → Channel
  | .output chunks forever =>
    .output (chunks.filter fun chunk => chunk.job ≠ some job || chunk.time ≤ time) forever
  | channel => channel

/-- A command that runs in the background. -/
structure Job where
  number : Nat
  /-- When it ends. -/
  ends : Nat
  status : Nat
  /-- The signal that has ended it. -/
  signal : Option Nat

/-- An entry in the table in which a shell keeps the jobs that it has begun. -/
structure Entry where
  /-- The place in the table, from one. -/
  place : Nat
  /-- The number of the job. -/
  number : Nat
  /-- Whether the end of the job has been waited for. -/
  awaited : Bool
  deriving DecidableEq

/-- A signal on its way to a shell. -/
structure Sent where
  shell : Nat
  signal : Nat
  time : Nat

/-- What all processes share. -/
structure Machine where
  files : FileSystem
  channels : List Channel
  /-- Microseconds since the program was started. -/
  clock : Nat
  /-- When the program is stopped. -/
  deadline : Nat
  jobs : List Job
  /-- The signals that have not arrived yet. -/
  sent : List Sent
  /-- Whether the caller has been interrupted. -/
  interrupts : Bool
  /-- The number that the next process is given. -/
  nextNumber : Nat

/-- A variable of the shell. -/
structure Variable where
  /-- The value, if it has one. -/
  value : Option String
  /-- Whether programs are told of it. -/
  exported : Bool
  /-- Whether its value stays as it is. -/
  fixed : Bool

/-- A variable that is like others. -/
def Variable.plain (value : String) : Variable := ⟨some value, false, false⟩

/-- Where the options of a script are being read: the argument that comes next, and
how many letters of the one before it have been read. -/
structure OptionPlace where
  next : Nat
  letters : Option Nat

/-- The place at which reading options begins. -/
def OptionPlace.start : OptionPlace := ⟨1, none⟩

/-- A process that runs a shell. -/
structure Process where
  name : String
  /-- The number of this shell, and those of the shells around it. -/
  number : Nat
  around : List Nat
  line : Nat
  bindings : List (String × Variable)
  parameters : List String
  functions : List (String × Command)
  /-- The channels of the descriptors. -/
  descriptors : List (Nat × Nat)
  status : Nat
  /-- How many loops are running. -/
  loops : Nat
  /-- Whether this is the process that was started, and not one that it started. -/
  leads : Bool
  /-- Whether this is a process that a shell has made of itself. -/
  isCopy : Bool
  /-- The number of the job to which this process belongs. -/
  job : Option Nat
  /-- The jobs that this process has begun, the latest last. -/
  table : List Entry
  /-- The number of the job that was begun last. -/
  latest : Option Nat
  /-- Whether failures are being looked at, so that they do not end the shell. -/
  guarded : Bool
  /-- The letters of the options that are on. -/
  options : List Char
  /-- The permissions that files do not get when they are made. -/
  mask : Nat
  /-- Where programs have been found. -/
  known : List (String × String)
  /-- What commands stand for other text. -/
  aliases : List (String × String)
  /-- Where `getopts` goes on. -/
  place : OptionPlace
  /-- How many functions and read files are running. -/
  calls : Nat
  /-- What is done when a signal arrives; the number zero stands for the end. -/
  traps : List (Nat × String)
  /-- The signals that have arrived and are still to be seen to. -/
  arrived : List Nat
  /-- What variables were before a function made them its own. -/
  hidden : List (String × Option Variable)
  /-- What the options were before a function made them its own. -/
  hiddenOptions : Option (List Char)
  /-- What the last substituted command of this command came to. -/
  substituted : Option Nat

/-- A process and what it runs on. -/
structure State where
  machine : Machine
  process : Process

/-- Why a process does not go on with the next command. -/
inductive Flow
  | exit
  /-- A signal has ended the shell of a number. -/
  | killed (shell signal : Nat)
  /-- The program has been stopped, because it took too long. -/
  | timedOut
  /-- Loops are being left. -/
  | leave (levels : Nat)
  /-- The next turn of a loop begins. -/
  | again (levels : Nat)
  /-- A function or a script ends. -/
  | finish

/-- What a process does. -/
abbrev Run := ExceptT Flow (StateM State)

/-- The number of the process that started the program. -/
def callerNumber : Nat := 1

/-- The number of the process that was started. -/
def leaderNumber : Nat := 2

/-- Whether an option of the shell is on. -/
def Process.has (process : Process) (option : Char) : Bool := process.options.contains option

/-- Whether a failure ends the shell. -/
def Process.strict (process : Process) : Bool := process.has 'e'

/-- Whether parameters without a value are refused. -/
def Process.careful (process : Process) : Bool := process.has 'u'

/-- What a program that a signal has ended is said to have come to. -/
def signalStatus (signal : Nat) : Nat := 128 + signal

/-- What is said of a program that a signal has ended. Two signals pass without a
word. -/
def signalNotice : Nat → Option String
  | 1 => some "Hangup"
  | 3 => some "Quit"
  | 4 => some "Illegal instruction"
  | 6 => some "Aborted"
  | 9 => some "Killed"
  | 10 => some "User defined signal 1"
  | 11 => some "Segmentation fault"
  | 12 => some "User defined signal 2"
  | 14 => some "Alarm clock"
  | 15 => some "Terminated"
  | _ => none

namespace Run

def process : Run Process := do return (← get).process

def machine : Run Machine := do return (← get).machine

def files : Run FileSystem := do return (← machine).files

def changeProcess (change : Process → Process) : Run Unit :=
  modify fun state => { state with process := change state.process }

def changeMachine (change : Machine → Machine) : Run Unit :=
  modify fun state => { state with machine := change state.machine }

def setFiles (files : FileSystem) : Run Unit := changeMachine fun machine => { machine with files }

def setStatus (status : Nat) : Run Unit := changeProcess fun process => { process with status }

/-- Ends the shell. -/
def exitWith {α : Type} (status : Nat) : Run α := do setStatus status; throw .exit

/-! ## Channels -/

/-- Adds a channel. -/
def openChannel (channel : Channel) : Run Nat := do
  let index := (← machine).channels.length
  changeMachine fun machine => { machine with channels := machine.channels ++ [channel] }
  return index

def setChannel (index : Nat) (channel : Channel) : Run Unit :=
  changeMachine fun machine => { machine with channels := machine.channels.set index channel }

/-- The channel of a descriptor. -/
def channel? (descriptor : Nat) : Run (Option (Nat × Channel)) := do
  match (← process).descriptors.lookup descriptor with
  | none => return none
  | some index => return (← machine).channels[index]?.map (index, ·)

/-- Makes a descriptor stand for a channel. -/
def setDescriptor (descriptor index : Nat) : Run Unit :=
  changeProcess fun process =>
    { process with
      descriptors := (descriptor, index) :: process.descriptors.filter (·.1 ≠ descriptor) }

/-- Closes a descriptor. -/
def closeDescriptor (descriptor : Nat) : Run Unit :=
  changeProcess fun process =>
    { process with descriptors := process.descriptors.filter (·.1 ≠ descriptor) }

/-- The content of a file after bytes have been written at a place. -/
def overwrite (content : ByteArray) (offset : Nat) (bytes : List UInt8) : ByteArray :=
  let old := content.data.toList
  let padding := List.replicate (offset - old.length) 0
  ⟨(old.take offset ++ padding ++ bytes ++ old.drop (offset + bytes.length)).toArray⟩

/-- Writes bytes, and says whether that was possible. -/
def write (descriptor : Nat) (bytes : List UInt8) : Run Bool := do
  match ← channel? descriptor with
  | none | some (_, .input ..) | some (_, .directory) => return false
  | some (_, .discard) => return true
  | some (index, .output chunks forever) =>
    let chunk : Chunk := ⟨(← machine).clock, (← process).job, bytes⟩
    setChannel index (.output (chunk :: chunks) forever)
    return true
  | some (index, .file location offset access) =>
    if access.writes then
      match (← files).get? location with
      | some (.file content mode) =>
        let place := offset.getD content.size
        setFiles ((← files).put location (.file (overwrite content place bytes) mode))
        setChannel index (.file location (offset.map (· + bytes.length)) access)
      | _ => pure ()
    return access.writes

/-- Prints a text. -/
def print (text : String) : Run Bool := write 1 text.toUTF8.toList

/-- Prints a text for those who look for mistakes. -/
def complain (speaker text : String) : Run Unit := do
  let _ ← write 2 s!"{speaker}: {text}\n".toUTF8.toList

/-- Takes all that is left of the input. -/
def takeInput (descriptor : Nat) : Run (Except IoError (List UInt8 × List UInt8)) := do
  match ← channel? descriptor with
  | some (index, .input bytes forever) =>
    setChannel index (.input [] forever)
    return .ok (bytes, forever)
  | some (_, .discard) => return .ok ([], [])
  | some (index, .file location (some offset) access) =>
    if access.reads then
      let content := match (← files).get? location with
        | some (.file content _) => content
        | _ => access.held
      setChannel index (.file location (some (max offset content.size)) access)
      return .ok (content.data.toList.drop offset, [])
    else return .error .badDescriptor
  | some (_, .directory) => return .error .isADirectory
  | _ => return .error .badDescriptor

/-- Puts input back that was not needed. -/
def giveBack (descriptor : Nat) (bytes : List UInt8) : Run Unit := do
  match ← channel? descriptor with
  | some (index, .input _ forever) => setChannel index (.input bytes forever)
  | some (index, .file location (some offset) access) =>
    setChannel index (.file location (some (offset - bytes.length)) access)
  | _ => pure ()

/-- Puts what a signal has ended into words. -/
def announceSignal (signal : Nat) : Run Unit := do
  match signalNotice signal with
  | some notice =>
    let _ ← write 2 (notice ++ "\n").toUTF8.toList
  | none => pure ()

/-- Never ends. -/
def hang {α : Type} : Run α := do
  changeMachine fun machine => { machine with clock := max machine.clock machine.deadline }
  throw .timedOut

/-- Writes the same bytes again and again. -/
def writeForever (bytes : List UInt8) : Run Unit := do
  match ← channel? 1 with
  | some (index, .output chunks _) => setChannel index (.output chunks bytes)
  | some (_, .discard) | some (_, .file ..) => hang
  | _ => pure ()

/-! ## Files -/

/-- The input that a path names. Some names stand for devices. -/
def inputAt (path : String) : Run (Except IoError (List UInt8 × List UInt8)) := do
  if path = "/dev/null" then return .ok ([], [])
  else if path = "/dev/zero" then return .ok ([], [0])
  else if path = "/dev/stdin" then takeInput 0
  else return ((← files).read path).map fun content => (content.data.toList, [])

/-- Empties a file, or makes an empty one, and gives its location. -/
def emptyFile (path : String) : Run (Except IoError Location) := do
  let before ← files
  match before.write path ⟨#[]⟩ with
  | .error error => return .error error
  | .ok changed =>
    match changed.locate path with
    | .error error => return .error error
    | .ok (location, node) =>
      let mask := (← process).mask
      setFiles <| match node with
        | .file content mode =>
          if (before.get? location).isSome then changed
          else changed.put location (.file content ⟨mode.bits &&& (0o777 - mask)⟩)
        | .directory => changed
      return .ok location

/-- The location of a file, which is made if there is none. -/
def existingFile (path : String) : Run (Except IoError Location) := do
  match (← files).locate path with
  | .ok (_, .directory) => return .error .isADirectory
  | .ok (location, .file ..) => return .ok location
  | .error _ => emptyFile path

/-! ## Variables -/

/-- The value of a variable. -/
def valueOf? (name : String) : Run (Option String) := do
  return ((← process).bindings.lookup name).bind Variable.value

/-- A number for a process that begins. -/
def freshNumber : Run Nat := do
  let number := (← machine).nextNumber
  changeMachine fun machine => { machine with nextNumber := number + 1 }
  return number

/-- Puts a variable in place of the one of its name. -/
def bind (name : String) (held : Variable) : Run Unit :=
  changeProcess fun process => { process with bindings := assign process.bindings }
where
  assign : List (String × Variable) → List (String × Variable)
    | [] => [(name, held)]
    | entry :: rest => if entry.1 = name then (name, held) :: rest else entry :: assign rest

/-- Gives a variable a value, whether its value stays as it is or not. Where programs
have been found is forgotten when they are to be looked for elsewhere. -/
def setVariable (name value : String) : Run Unit := do
  let process ← process
  let held := (process.bindings.lookup name).getD (.plain "")
  let exported := held.exported || process.has 'a'
  bind name { held with value := some value, exported }
  if name = "PATH" then changeProcess fun process => { process with known := [] }

/-- Whether the value of a variable stays as it is. -/
def isFixed (name : String) : Run Bool := do
  return (((← process).bindings.lookup name).map Variable.fixed).getD false

/-- Takes a variable away. -/
def unsetVariable (name : String) : Run Unit :=
  changeProcess fun process =>
    { process with bindings := process.bindings.filter (·.1 ≠ name) }

/-! ## Processes -/

/-- Does something and says why it does not go on, if it does not. -/
def caught (run : Run Unit) : Run (Option Flow) := fun state =>
  match run state with
  | (.ok _, state) => (.ok none, state)
  | (.error flow, state) => (.ok (some flow), state)

/-- Does something, and then something else in any case. -/
def ensuring {α : Type} (run : Run α) (after : Run Unit) : Run α := fun state =>
  let (outcome, state) := run state
  let (_, state) := after state
  (outcome, state)

/-- Runs something in a process of its own, which begins as a copy of this one, but
does nothing of its own when signals arrive. What it came to is the status. -/
def inProcess (run : Run Unit) : Run Unit := do
  let outer ← process
  let cwd := (← files).cwd
  changeProcess fun process =>
    { process with
      leads := false, isCopy := true, traps := process.traps.filter (·.2 = ""), table := [] }
  let flow ← caught run
  let status := (← process).status
  changeProcess fun _ => { outer with status }
  setFiles { (← files) with cwd }
  match flow with
  | some (.killed shell signal) => throw (.killed shell signal)
  | some .timedOut => throw .timedOut
  | _ => pure ()

/-- Signals that do not end a program. -/
def isHarmless (signal : Nat) : Bool :=
  signal = 0 || signal = 17 || signal = 18 || signal = 23 || signal = 28

/-- Signals that stop a program until it is told to go on. -/
def isStopping (signal : Nat) : Bool := 19 ≤ signal && signal ≤ 22

/-- The signals for which nothing can be set. -/
def isSovereign (signal : Nat) : Bool := signal = 9 || signal = 19

/-- Does to this shell what a signal does. -/
def receive (signal : Nat) : Run Unit := do
  let process ← process
  let action? := if isSovereign signal then none else process.traps.lookup signal
  match action? with
  | some "" => pure ()
  | some _ => changeProcess fun process => { process with arrived := process.arrived ++ [signal] }
  | none =>
    if isHarmless signal then pure ()
    else if isStopping signal then hang
    else throw (.killed process.number signal)

/-- Receives the signals that have been sent to this shell by now, and stops the program
that was started if it has taken too long. The programs that it has started go on. -/
def checkClock : Run Unit := do
  let process ← process
  let machine ← machine
  let last := if process.leads then min machine.clock machine.deadline else machine.clock
  if !process.isCopy then
    let arrives (sent : Sent) : Bool := sent.shell = process.number && sent.time ≤ last
    let (now, later) := machine.sent.partition arrives
    changeMachine fun machine => { machine with sent := later }
    for sent in now do
      receive sent.signal
  if process.leads && machine.deadline ≤ machine.clock then throw .timedOut

end Run

/-- A program: what it prints its complaints under, and its arguments. It gives a
status. -/
abbrev Utility := (speaker : String) → (arguments : List String) → Run Nat

/-- How a program starts others, by their names and with arguments. What became of
them is the status. -/
structure Starter where
  /-- Runs a program in a process of its own and waits for it. -/
  apart : (name : String) → (arguments : List String) → Run (Except IoError Unit)
  /-- Runs a program in place of the one that starts it. -/
  inPlace : (name : String) → (arguments : List String) → Run (Except IoError Unit)

end StepGraph.Shell
