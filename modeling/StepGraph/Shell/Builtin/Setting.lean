import StepGraph.Shell.Builtin.Basic
import StepGraph.Shell.Utility.Permissions

/-! Options and limits of the shell. -/
namespace StepGraph.Shell.Builtin
open Run Expansion

/-- The options by name, in the order in which they are listed. Some have no letter. -/
def longOptions : List (String × Option Char) :=
  [("errexit", some 'e'), ("noglob", some 'f'), ("ignoreeof", some 'I'),
    ("interactive", some 'i'), ("monitor", some 'm'), ("noexec", some 'n'), ("stdin", some 's'),
    ("xtrace", some 'x'), ("verbose", some 'v'), ("vi", some 'V'), ("emacs", some 'E'),
    ("noclobber", some 'C'), ("allexport", some 'a'), ("notify", some 'b'),
    ("nounset", some 'u'), ("privileged", some 'p'), ("nolog", none), ("debug", none)]

/-- Changes an option, if there is one of this letter. -/
def setOption (on : Bool) (letter : Char) : Run Bool := do
  if longOptions.any fun option => option.2 = some letter then
    changeProcess fun process =>
      let others := process.options.filter (· ≠ letter)
      { process with options := if on then letter :: others else others }
    return true
  else return false

/-- Lists the options: as a table, or as commands that set them. -/
def listOptions (asTable : Bool) : Run Unit := do
  if asTable then
    let _ ← print "Current option settings\n"
  for (name, letter?) in longOptions do
    let on := (letter?.map (← process).has).getD false
    let line :=
      if asTable then name ++ "".pushn ' ' (16 - name.length) ++ (if on then "on" else "off")
      else "set " ++ (if on then "-o " else "+o ") ++ name
    let _ ← print (line ++ "\n")

/-- Changes an option that is given by its name. -/
def setLongOption (command : String) (on : Bool) (name : String) : Run Unit := do
  match longOptions.lookup name with
  | none =>
    let sign := if on then "-" else "+"
    blameAndExit command s!"Illegal option {sign}o {name}"
  | some none => pure ()
  | some (some letter) =>
    let _ ← setOption on letter

/-- Gives the parameters new values. -/
def setParameters (parameters : List String) : Run Unit :=
  changeProcess fun process => { process with parameters, place := .start }

/-- Reads the options and parameters that `set` is given. -/
def setArguments : List String → Run Unit
  | [] => pure ()
  | "--" :: rest => setParameters rest
  | "-" :: rest => do
    changeProcess fun process =>
      { process with options := process.options.filter fun letter => letter ≠ 'x' && letter ≠ 'v' }
    if rest ≠ [] then setParameters rest
  | ["-o"] => listOptions true
  | ["+o"] => listOptions false
  | "-o" :: name :: rest => do setLongOption "set" true name; setArguments rest
  | "+o" :: name :: rest => do setLongOption "set" false name; setArguments rest
  | argument :: rest => do
    match argument.toList with
    | sign :: c :: cs =>
      if sign = '-' || sign = '+' then
        for letter in c :: cs do
          if !(← setOption (sign = '-') letter) then
            let sign := sign.toString
            blameAndExit "set" s!"Illegal option {sign}{letter}"
        setArguments rest
      else setParameters (argument :: rest)
    | _ => setParameters (argument :: rest)

/-- Lists the variables that have values. -/
def listVariables : Run Unit := do
  for (name, held) in inNameOrder (← process).bindings do
    match held.value with
    | some value =>
      let _ ← print s!"{name}={quoted value}\n"
    | none => pure ()

/-- Changes options and parameters, or lists the variables. -/
def set (arguments : List String) : Run Unit := do
  if arguments = [] then listVariables else setArguments arguments

/-- Shows or changes the permissions that files do not get when they are made. -/
def umask (arguments : List String) : Run Nat := do
  let mask := (← process).mask
  match arguments with
  | [] =>
    let digits := Nat.toDigits 8 mask
    let _ ← print (String.ofList (List.replicate (4 - digits.length) '0' ++ digits) ++ "\n")
    return 0
  | ["-S"] =>
    let letters (bits : Nat) : String :=
      (if bits &&& 4 = 0 then "r" else "") ++ (if bits &&& 2 = 0 then "w" else "") ++
        (if bits &&& 1 = 0 then "x" else "")
    let _ ← print s!"u={letters (mask >>> 6)},g={letters (mask >>> 3)},o={letters mask}\n"
    return 0
  | text :: _ =>
    let change (mask : Nat) : Run Nat := do
      changeProcess fun process => { process with mask }
      return 0
    if (text.toList.head?.map Text.Decimal.isDigit).getD false then
      match Utility.octalNumber? text with
      | some number => change (number &&& 0o777)
      | none => blamed "umask" s!"Illegal number: {text}"
    else
      match Utility.ModeChange.ofText? text with
      | some changes =>
        let allowed := changes.foldl (fun bits change => change.apply 0 bits) (0o777 - mask)
        change (0o777 - (allowed &&& 0o777))
      | none => blamed "umask" s!"Illegal mode: {text}"

/-- Shows the limits of programs, of which there are none. -/
def ulimit (arguments : List String) : Run Nat := do
  let isOption (text : String) : Bool := text.toList.head? = some '-'
  let letters := (arguments.filter isOption).flatMap fun text => text.toList.drop 1
  match letters.find? fun letter => !"HSatfdscmlpnvwr".toList.contains letter with
  | some letter => blamed "ulimit" s!"Illegal option -{letter}"
  | none =>
    if arguments.all isOption then
      let _ ← print "unlimited\n"
    return 0

end StepGraph.Shell.Builtin
