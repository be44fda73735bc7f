import StepGraph.Shell.Executable
import StepGraph.Shell.Expansion

/-! What the commands that the shell runs itself have in common: running other
commands, complaining, and showing values so that they can be read again. -/
namespace StepGraph.Shell
open Run Expansion

/-- How commands are run; given to what is part of running them. -/
abbrev Execute := Command → Run Unit

/-- Reads the lines of a script and runs each before the next is read, so that what
stands above a mistake still runs. `fuel` bounds the lines. -/
def runLines (execute : Execute) : (fuel : Nat) → Script → Run Unit
  | 0, _ => pure ()
  | fuel + 1, script => do
    match script.next? (← process).aliases with
    | none => pure ()
    | some (.ok (command, rest)) =>
      execute command
      runLines execute fuel rest
    | some (.error mistake) =>
      complain s!"{(← process).name}: {Text.Decimal.text mistake.line}" mistake.message
      exitWith 2

/-- Runs the text of a script. -/
def runScript (execute : Execute) (text : String) : Run Unit :=
  let script := Script.ofText text
  runLines execute (script.tokens.length + 1) script

/-- Runs what a process does from its beginning to its end, with what was set for
the end. -/
def toTheEnd (execute : Execute) (body : Run Unit) : Run Unit := do
  let flow ← caught body
  match flow with
  | some (.killed shell signal) => throw (.killed shell signal)
  | some .timedOut => throw .timedOut
  | _ =>
    match (← process).traps.lookup 0 with
    | none => pure ()
    | some action =>
      let status := (← process).status
      changeProcess fun process => { process with traps := [] }
      setStatus status
      runScript execute action
      setStatus status

/-- What a script prints, where its output takes the place of a word. -/
def outputOf (execute : Execute) (text : String) : Run String :=
  substitute (toTheEnd execute (runScript execute text))

namespace Builtin

/-- The commands in whose case a refused redirection or a mistake ends the shell,
and assignments before them last. -/
def special : List String := Parser.specialNames

/-- The other commands that the shell runs itself. -/
def regular : List String :=
  ["[", "alias", "bg", "cd", "command", "echo", "false", "fg", "getopts", "hash", "jobs", "kill",
    "printf", "pwd", "read", "test", "true", "type", "ulimit", "umask", "unalias", "wait"]

/-- Complains in the name of the shell and of a command. -/
def blame (name text : String) : Run Unit := grumble s!"{name}: {text}"

/-- Complains and ends the shell. -/
def blameAndExit {α : Type} (name text : String) : Run α := do
  blame name text
  exitWith 2

/-- Complains and gives the status of a mistake. -/
def blamed (name text : String) : Run Nat := do
  blame name text
  return 2

/-- The number that an argument is, or else the shell gives up. -/
def count (name : String) (arguments : List String) (default : Nat) : Run Nat := do
  match arguments with
  | [] => return default
  | text :: _ =>
    match Utility.number? text with
    | some number => return number
    | none => blameAndExit name s!"Illegal number: {text}"

/-- A text in apostrophes, and the apostrophes of the text in quotation marks. `fuel`
bounds the runs of apostrophes. -/
def shown : (fuel : Nat) → List Char → List Char
  | 0, _ => []
  | fuel + 1, cs =>
    let plain := cs.takeWhile (· ≠ '\'')
    let rest := cs.drop plain.length
    let quotes := rest.takeWhile (· = '\'')
    let rest := rest.drop quotes.length
    '\'' :: plain ++ ['\''] ++
      if quotes = [] then []
      else '"' :: quotes ++ ['"'] ++ if rest = [] then [] else shown fuel rest

/-- A text as it can be read again. -/
def quoted (text : String) : String := String.ofList (shown (text.length + 1) text.toList)

/-- Names in the order of their characters. -/
def inNameOrder {α : Type} (entries : List (String × α)) : List (String × α) :=
  entries.mergeSort fun first second => first.1 ≤ second.1

/-- The path on which programs are looked for. -/
def searchPath : Run String := do return (← valueOf? "PATH").getD ""

end Builtin
end StepGraph.Shell
