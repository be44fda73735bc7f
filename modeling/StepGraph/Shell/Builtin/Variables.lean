import StepGraph.Shell.Builtin.Basic

/-! Commands that declare variables or give them values. -/
namespace StepGraph.Shell.Builtin
open Run Expansion

/-! ## Declaring -/

/-- A property that variables are declared to have. -/
inductive Property
  | exported
  | fixed

namespace Property

def command : Property → String
  | .exported => "export"
  | .fixed => "readonly"

def holds : Property → Variable → Bool
  | .exported, held => held.exported
  | .fixed, held => held.fixed

def set : Property → Variable → Variable
  | .exported, held => { held with exported := true }
  | .fixed, held => { held with fixed := true }

end Property

/-- Lists the variables that have a property as commands that declare them. -/
def listDeclared (property : Property) : Run Unit := do
  for (name, held) in inNameOrder (← process).bindings do
    if property.holds held then
      let value := (held.value.map fun value => "=" ++ quoted value).getD ""
      let _ ← print s!"{property.command} {name}{value}\n"

/-- Refuses a text that cannot be the name of a variable. -/
def requireName (command name : String) : Run Unit := do
  if !Lexer.isName name then blameAndExit command s!"{name}: bad variable name"

/-- Gives a variable a value in the course of a command. -/
def assignIn (command name value : String) : Run Unit := do
  if ← isFixed name then blameAndExit command s!"{name}: is read only"
  assign name value

/-- Declares variables. -/
def declare (property : Property) (arguments : List String) : Run Unit := do
  let command := property.command
  match arguments with
  | [] | ["-p"] => listDeclared property
  | arguments =>
    match arguments.head?.map String.toList with
    | some ('-' :: letter :: _) =>
      if letter ≠ '-' && letter ≠ 'p' then blameAndExit command s!"Illegal option -{letter}"
    | _ => pure ()
    for argument in arguments.filter fun argument => argument ≠ "--" && argument ≠ "-p" do
      let (name, value?) := Utility.assignmentIn argument
      requireName command name
      match value? with
      | some value => assignIn command name value
      | none => pure ()
      let held := ((← process).bindings.lookup name).getD ⟨none, false, false⟩
      bind name (property.set held)

/-- Takes variables away, or functions if an option says so. -/
def unset (arguments : List String) : Run Unit := do
  let (options, names) := match arguments with
    | "-f" :: rest => ("f", rest)
    | "-v" :: rest => ("v", rest)
    | "--" :: rest => ("", rest)
    | rest => ("", rest)
  for name in names do
    if options = "f" then
      changeProcess fun process =>
        { process with functions := process.functions.filter (·.1 ≠ name) }
    else
      requireName "unset" name
      if ← isFixed name then blameAndExit "unset" s!"{name}: is read only"
      if name = "OPTIND" then blameAndExit "unset" "Illegal number: "
      unsetVariable name
      if name = "PATH" then changeProcess fun process => { process with known := [] }

/-- Makes variables those of the function that is running. -/
def localize (arguments : List String) : Run Unit := do
  if (← process).calls = 0 then blameAndExit "local" "not in a function"
  for argument in arguments do
    let (name, value?) := Utility.assignmentIn argument
    if name = "-" then
      changeProcess fun process => { process with hiddenOptions := some process.options }
    else
      requireName "local" name
      let old := (← process).bindings.lookup name
      changeProcess fun process => { process with hidden := (name, old) :: process.hidden }
      match value? with
      | some value => assignIn "local" name value
      | none => pure ()

/-! ## Reading -/

/-- A character of a line, and whether a backslash stood before it. -/
abbrev Mark := Char × Bool

/-- How many bytes a line takes, and whether its end is among them. Unless `raw`, a
backslash takes the byte behind it along. -/
def lineSize (raw : Bool) : List UInt8 → Nat × Bool
  | [] => (0, false)
  | [byte] => (1, byte = 10)
  | byte :: next :: rest =>
    if byte = 10 then (1, true)
    else if byte = 92 && !raw then
      let (size, ended) := lineSize raw rest
      (size + 2, ended)
    else
      let (size, ended) := lineSize raw (next :: rest)
      (size + 1, ended)

/-- The characters of a line. Backslashes are taken out and join lines, unless `raw`. -/
def marksOf (raw : Bool) : List Char → List Mark
  | [] => []
  | [c] => if c = '\n' || (c = '\\' && !raw) then [] else [(c, false)]
  | c :: next :: rest =>
    if c = '\\' && !raw then
      if next = '\n' then marksOf raw rest else (next, true) :: marksOf raw rest
    else if c = '\n' then []
    else (c, false) :: marksOf raw (next :: rest)

/-- Splits a line into so many fields; the last takes what is left, without the blanks
at its end and without a single separator there. -/
def splitLine (separators : List Char) : Nat → List Mark → List String
  | 0, _ => []
  | names + 1, line =>
    let isSeparator (mark : Mark) : Bool := separators.contains mark.1 && !mark.2
    let isBlank (mark : Mark) : Bool :=
      isSeparator mark && (mark.1 = ' ' || mark.1 = '\t' || mark.1 = '\n')
    let text (marks : List Mark) : String := String.ofList (marks.map Prod.fst)
    let trimmed (marks : List Mark) : List Mark := (marks.reverse.dropWhile isBlank).reverse
    let line := line.dropWhile isBlank
    let field := line.takeWhile (!isSeparator ·)
    let afterBlanks := (line.drop field.length).dropWhile isBlank
    let rest := match afterBlanks with
      | mark :: after => if isSeparator mark then after.dropWhile isBlank else afterBlanks
      | [] => []
    if names = 0 then [text (if rest = [] then field else trimmed line)]
    else text field :: splitLine separators names rest

/-- Reads a line of the input into variables. -/
def read (arguments : List String) : Run Nat := do
  let (raw, names) := options arguments
  match names with
  | [] => blamed "read" "arg count"
  | names =>
    match names.find? (!Lexer.isName ·) with
    | some name => blamed "read" s!"{name}: bad variable name"
    | none =>
      let supply := (← takeInput 0).toOption.getD ([], [])
      let (size, ended) := lineSize raw supply.1
      giveBack 0 (supply.1.drop size)
      let line := marksOf raw (Text.Utf8.lossy (supply.1.take size)).toList
      let fields := splitLine (← separators).toList names.length line
      for (name, value) in names.zip fields do
        if ← isFixed name then return ← blamed "read" s!"{name}: is read only"
        assign name value
      return if ended then 0 else 1
where
  options : List String → Bool × List String
    | "-r" :: rest => (true, (options rest).2)
    | "-p" :: _ :: rest => options rest
    | "--" :: rest => (false, rest)
    | rest => (false, rest)

/-! ## Options of scripts -/

/-- The letter that comes next among arguments, and where reading goes on behind it;
nothing at the end of the options, where only the place is left. -/
def nextLetter (arguments : List String) (place : OptionPlace) :
    Option (Char × List Char × Nat) × Nat :=
  let inside (index : Nat) (count : Nat) : Option (Char × List Char × Nat) :=
    match arguments[index]? with
    | none => none
    | some argument =>
      match argument.toList.drop count with
      | [] => none
      | c :: rest => some (c, rest, count + 1)
  match place.letters.bind (inside (place.next - 2)) with
  | some found => (some found, place.next)
  | none =>
    match arguments[place.next - 1]? with
    | none => (none, place.next)
    | some argument =>
      match argument.toList with
      | ['-', '-'] => (none, place.next + 1)
      | '-' :: _ :: _ => (inside (place.next - 1) 1, place.next + 1)
      | _ => (none, place.next)

/-- Reads the next option of a script. -/
def getopts (arguments : List String) : Run Nat := do
  match arguments with
  | known :: name :: rest =>
    if !Lexer.isName name then return ← blamed "getopts" s!"{name}: bad variable name"
    let parameters := (← process).parameters
    let given := if rest = [] then parameters else rest
    let quiet := known.toList.head? = some ':'
    let (found, next) := nextLetter given (← process).place
    let finish (place : OptionPlace) (value : String) (argument : Option String) : Run Unit := do
      match argument with
      | some text => setVariable "OPTARG" text
      | none => unsetVariable "OPTARG"
      setVariable name value
      setVariable "OPTIND" (Text.Decimal.text place.next)
      changeProcess fun process => { process with place }
    match found with
    | none =>
      setVariable name "?"
      setVariable "OPTIND" (Text.Decimal.text next)
      changeProcess fun process => { process with place := ⟨next, none⟩ }
      return 1
    | some (letter, others, count) =>
      let here : OptionPlace := ⟨next, some count⟩
      match (known.toList.drop (if quiet then 1 else 0)).dropWhile (· ≠ letter) with
      | _ :: ':' :: _ =>
        match others, given[next - 1]? with
        | _ :: _, _ => finish ⟨next, none⟩ letter.toString (some (String.ofList others))
        | [], some value => finish ⟨next + 1, none⟩ letter.toString (some value)
        | [], none =>
          if quiet then finish ⟨next, none⟩ ":" (some letter.toString)
          else
            let _ ← write 2 s!"No arg for -{letter} option\n".toUTF8.toList
            finish ⟨next, none⟩ "?" none
        return 0
      | _ :: _ =>
        if letter = ':' then unknown quiet letter here finish
        else
          finish here letter.toString (some "")
          return 0
      | [] => unknown quiet letter here finish
  | _ => blamed "getopts" "Usage: getopts optstring var [arg...]"
where
  unknown (quiet : Bool) (letter : Char) (here : OptionPlace)
      (finish : OptionPlace → String → Option String → Run Unit) : Run Nat := do
    if quiet then finish here "?" (some letter.toString)
    else
      let _ ← write 2 s!"Illegal option -{letter}\n".toUTF8.toList
      finish here "?" none
    return 0

end StepGraph.Shell.Builtin
