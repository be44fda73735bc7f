import StepGraph.Shell.Machine

/-! Options of utilities. Options may stand between other arguments, and several
of one letter may share a dash; what needs a value takes the rest of the
argument, or the next one. Some options have names, which may be cut short. -/
namespace StepGraph.Shell.Utility

/-- The options that a utility knows. -/
structure Grammar where
  /-- The letters of options without a value. -/
  flags : String
  /-- The letters of options with a value. -/
  valued : String := ""
  /-- The letters of options that may have a value right behind them. -/
  optional : String := ""
  /-- Names, each with the letter for which it stands. -/
  long : List (String × Char) := []
  /-- Whether options stand in front of all other arguments. -/
  inFront : Bool := false
  /-- What a complaint about a misuse goes on with. -/
  usage : String := ""

/-- Options by letter, each with its value if it has one, and the other
arguments. -/
structure Options where
  chosen : List (Char × String)
  operands : List String

namespace Options

/-- Whether an option was given. -/
def has (options : Options) (letter : Char) : Bool := (options.chosen.lookup letter).isSome

/-- The value that an option was given last. -/
def value? (options : Options) (letter : Char) : Option String := options.chosen.reverse.lookup letter

/-- Reads the letters of an argument. Says which option still needs a value. -/
def letters (grammar : Grammar) :
    List Char → Except Char (List (Char × String) × Option Char)
  | [] => .ok ([], none)
  | c :: rest =>
    if grammar.optional.toList.contains c then .ok ([(c, String.ofList rest)], none)
    else if grammar.flags.toList.contains c then do
      let (chosen, missing) ← letters grammar rest
      return ((c, "") :: chosen, missing)
    else if grammar.valued.toList.contains c then
      .ok (if rest = [] then ([], some c) else ([(c, String.ofList rest)], none))
    else .error c

/-- The long options that a text can stand for: the one of this name, or all of
those whose names begin with it. -/
def longNames (grammar : Grammar) (text : String) : List (String × Char) :=
  match grammar.long.lookup text with
  | some letter => [(text, letter)]
  | none => grammar.long.filter fun entry => entry.1.startsWith text

/-- Reads an option that is written out, with the value behind an equals sign if
there is one. Says which option still needs a value. -/
def long (grammar : Grammar) (text : String) (value? : Option String) :
    Except String (List (Char × String) × Option Char) :=
  match longNames grammar text, value? with
  | [], _ => .error s!"unrecognized option '--{text}'"
  | (name, letter) :: others, value? =>
    if others.any fun entry => entry.2 ≠ letter then
      let names := ((name, letter) :: others).map fun entry => s!" '--{entry.1}'"
      .error s!"option '--{text}' is ambiguous; possibilities:{String.join names}"
    else if grammar.valued.toList.contains letter then
      match value? with
      | some value => .ok ([(letter, value)], none)
      | none => .ok ([], some letter)
    else
      match value? with
      | none => .ok ([(letter, "")], none)
      | some value =>
        if grammar.optional.toList.contains letter then .ok ([(letter, value)], none)
        else .error s!"option '--{name}' doesn't allow an argument"

/-- Reads arguments. -/
def read (grammar : Grammar) : List String → Except String Options
  | [] => .ok ⟨[], []⟩
  | "--" :: rest => .ok ⟨[], rest⟩
  | argument :: rest =>
    let continued (found : List (Char × String) × Option Char) (complaint : Char → String) :
        Except String Options :=
      match found with
      | (chosen, none) => do
        let options ← read grammar rest
        return { options with chosen := chosen ++ options.chosen }
      | (chosen, some letter) =>
        match rest with
        | [] => .error (complaint letter)
        | value :: rest => do
          let options ← read grammar rest
          return { options with chosen := chosen ++ (letter, value) :: options.chosen }
    match argument.toList with
    | '-' :: '-' :: name => do
      let text := String.ofList (name.takeWhile (· ≠ '='))
      let value? := match name.dropWhile (· ≠ '=') with
        | [] => none
        | _ :: value => some (String.ofList value)
      continued (← long grammar text value?) fun _ => s!"option '--{text}' requires an argument"
    | '-' :: c :: cs =>
      match letters grammar (c :: cs) with
      | .error letter => .error s!"invalid option -- '{letter}'"
      | .ok found => continued found fun letter => s!"option requires an argument -- '{letter}'"
    | _ => do
      if grammar.inFront then return ⟨[], argument :: rest⟩
      let options ← read grammar rest
      return { options with operands := argument :: options.operands }

end Options

/-- Complains about the way in which a utility is used. -/
def misuse (speaker message : String) (status : Nat) : Run Nat := do
  Run.complain speaker s!"{message}\nTry '{speaker} --help' for more information."
  return status

/-- Runs a utility with its options read. -/
def withOptions (grammar : Grammar) (misuseStatus : Nat)
    (body : (speaker : String) → Options → Run Nat) : Utility := fun speaker arguments => do
  match Options.read grammar arguments with
  | .error message => misuse speaker (message ++ grammar.usage) misuseStatus
  | .ok options => body speaker options

/-- Complains about a refusal and gives the status of failure. -/
def refused (speaker subject : String) (error : IoError) : Run Nat := do
  Run.complain speaker s!"{subject}: {error.reason}"
  return 1

/-- An assignment written as an argument. -/
def assignmentIn (argument : String) : String × Option String :=
  let name := argument.toList.takeWhile (· ≠ '=')
  match argument.toList.dropWhile (· ≠ '=') with
  | [] => (argument, none)
  | _ :: value => (String.ofList name, some (String.ofList value))

/-- A natural number in decimal. -/
def number? (text : String) : Option Nat :=
  let cs := text.toList
  if cs ≠ [] && cs.all Text.Decimal.isDigit then some (Text.Decimal.value cs) else none

/-- Does something with each argument; the status is the last that is a failure. -/
def forEach (arguments : List String) (body : String → Run Nat) : Run Nat :=
  arguments.foldlM (fun status argument => do
    let next ← body argument
    return if next = 0 then status else next) 0

/-- The parts of bytes that a byte ends, without it. -/
def linesEndedBy (ending : UInt8) (bytes : List UInt8) : List (List UInt8) :=
  let (line, others) := bytes.foldr (fun byte (line, others) =>
    if byte = ending then ([], line :: others) else (byte :: line, others)) ([], [])
  -- the first line is not yet among the others, and an empty end is no line
  let all := line :: others
  if all.getLast? = some [] then all.dropLast else all

/-- The lines of bytes; the ends of lines are left out. -/
def lines (bytes : List UInt8) : List (List UInt8) := linesEndedBy 10 bytes

/-- Bytes of lines, each with its end. -/
def unlines (lines : List (List UInt8)) : List UInt8 := lines.flatMap (· ++ [10])

end StepGraph.Shell.Utility
