import StepGraph.Shell.Utility.Integers

/-! Utilities that let time pass or send signals. -/
namespace StepGraph.Shell.Utility
open Run

/-- The microseconds that a text denotes: a decimal number of seconds, or of the
unit behind it. -/
def microseconds? (text : String) : Option Nat :=
  let (digits, unit) := match text.toList.reverse with
    | 's' :: rest => (rest.reverse, 1)
    | 'm' :: rest => (rest.reverse, 60)
    | 'h' :: rest => (rest.reverse, 3600)
    | 'd' :: rest => (rest.reverse, 86400)
    | _ => (text.toList, 1)
  let whole := digits.takeWhile Text.Decimal.isDigit
  let part? := match digits.dropWhile Text.Decimal.isDigit with
    | [] => some []
    | '.' :: rest => if rest.all Text.Decimal.isDigit then some rest else none
    | _ => none
  match part? with
  | none => none
  | some part =>
    if whole = [] && part = [] then none
    else
      let part := (part ++ List.replicate 6 '0').take 6
      some ((Text.Decimal.value whole * 1000000 + Text.Decimal.value part) * unit)

/-- Lets time pass. -/
def sleep : Utility := fun speaker arguments => do
  if arguments = [] then misuse speaker "missing operand" 1
  else
    match arguments.find? fun text => (microseconds? text).isNone with
    | some text =>
      match text.toList with
      | '-' :: c :: _ => if c ≠ '-' then return ← misuse speaker s!"invalid option -- '{c}'" 1
      | _ => pure ()
      misuse speaker s!"invalid time interval '{text}'" 1
    | none =>
      let total := (arguments.filterMap microseconds?).foldl (· + ·) 0
      changeMachine fun machine => { machine with clock := machine.clock + total }
      return 0

/-- The signals with names. -/
def signalNames : List (Nat × String) :=
  [(1, "HUP"), (2, "INT"), (3, "QUIT"), (4, "ILL"), (5, "TRAP"), (6, "ABRT"), (7, "BUS"),
    (8, "FPE"), (9, "KILL"), (10, "USR1"), (11, "SEGV"), (12, "USR2"), (13, "PIPE"), (14, "ALRM"),
    (15, "TERM"), (17, "CHLD"), (18, "CONT"), (19, "STOP"), (20, "TSTP"), (21, "TTIN"),
    (22, "TTOU"), (23, "URG"), (24, "XCPU"), (25, "XFSZ"), (26, "VTALRM"), (27, "PROF"),
    (28, "WINCH"), (29, "IO"), (30, "PWR"), (31, "SYS")]

/-- There are no signals beyond this number. -/
def lastSignal : Nat := 64

/-- The number of a signal, from its name or from its digits. -/
def signalNumber? (text : String) : Option Nat :=
  match number? text with
  | some number => if number ≤ lastSignal then some number else none
  | none => (signalNames.find? (·.2 = text.toUpper)).map Prod.fst

/-- The name of a signal. -/
def signalName (number : Nat) : String :=
  match signalNames.lookup number with
  | some name => name
  | none =>
    if number = 34 then "RTMIN"
    else if number = lastSignal then "RTMAX"
    else if 34 < number && number ≤ 49 then s!"RTMIN+{number - 34}"
    else if 49 < number && number < lastSignal then s!"RTMAX-{lastSignal - number}"
    else Text.Decimal.text number

/-- The entry that the text behind a percent sign means. -/
def entryOf? (table : List Entry) (place : List Char) : Option Entry :=
  match place with
  | [] | ['%'] | ['+'] => table.getLast?
  | ['-'] => table.dropLast.getLast?
  | _ =>
    match number? (String.ofList place) with
    | some number => table.find? (·.place = number)
    | none => none

/-- Ends a job, unless it has ended already. What it would have written is not
written. -/
def endJob (number signal : Nat) : Run Unit :=
  changeMachine fun machine =>
    { machine with
      channels := machine.channels.map (·.cutShort number machine.clock)
      jobs := machine.jobs.map fun job =>
        if job.number = number then
          { job with
            ends := machine.clock, status := signalStatus signal, signal := some signal }
        else job }

/-- Sends a signal to a process: to this shell or one around it, to the process
that started the program, or to a job in the background. -/
def signal (speaker : String) (signal : Nat) (target : String) : Run Nat := do
  let process ← process
  let target? : Option Int := match target.toList with
    | '%' :: place => (entryOf? process.table place).map fun entry => (entry.number : Int)
    | _ => integer? target
  match target? with
  | none =>
    if target.startsWith "%" then complain speaker s!"No such job: {target}"
    else complain speaker s!"Illegal number: {target}"
    return 2
  | some number =>
    if number = process.number && !process.isCopy then
      receive signal
      return 0
    else if (process.number :: process.around).any fun shell => (shell : Int) = number then
      changeMachine fun machine =>
        { machine with sent := machine.sent ++ [⟨number.toNat, signal, machine.clock⟩] }
      return 0
    else if number = callerNumber then
      if signal = 2 then
        changeMachine fun machine => { machine with interrupts := true }
      return 0
    else
      let machine ← machine
      if machine.jobs.any fun job => (job.number : Int) = number && machine.clock < job.ends then
        if !isHarmless signal then endJob number.toNat signal
        return 0
      else
        complain speaker "No such process\n"
        return 1

/-- Lists the signals, or names those that are given by number or by the status of a
program that one has ended. -/
def listSignals (speaker : String) (arguments : List String) : Run Nat := do
  match arguments with
  | [] =>
    for number in List.range (lastSignal + 1) do
      let _ ← print (signalName number ++ "\n")
    return 0
  | text :: _ =>
    match number? text with
    | none => complain speaker s!"Illegal number: {text}"; return 2
    | some number =>
      let number := if 128 < number then number - 128 else number
      if number = 0 || lastSignal < number then
        complain speaker s!"invalid signal number or exit status: {text}"
        return 2
      let _ ← print (signalName number ++ "\n")
      return 0

/-- Sends signals. -/
def kill : Utility := fun speaker arguments => do
  let send (name : String) (targets : List String) : Run Nat := do
    match signalNumber? name with
    | none =>
      let letter := name.take 1
      complain speaker s!"Illegal option -{letter}"
      return 2
    | some number => forEach targets (signal speaker number)
  match arguments with
  | "-l" :: rest => listSignals speaker rest
  | "-s" :: name :: targets =>
    if (signalNumber? name).isSome then send name targets
    else
      complain speaker s!"invalid signal number or name: {name}"
      return 2
  | "--" :: targets => forEach targets (signal speaker 15)
  | first :: targets =>
    match first.toList with
    | '-' :: c :: cs => send (String.ofList (c :: cs)) targets
    | _ => forEach (first :: targets) (signal speaker 15)
  | [] =>
    complain speaker
      "Usage: kill [-s sigspec | -signum | -sigspec] [pid | job]... or\nkill -l [exitstatus]"
    return 2

end StepGraph.Shell.Utility
