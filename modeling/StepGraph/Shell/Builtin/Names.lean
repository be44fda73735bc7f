import StepGraph.Shell.Builtin.Basic

/-! What names stand for: reserved words, functions, commands of the shell's own, and
programs, where the path of a program is remembered once it has been found. -/
namespace StepGraph.Shell.Builtin
open Run Expansion

/-- What a name stands for. -/
inductive Meaning
  | keyword
  | aliasOf (text : String)
  | function
  | special
  | regular
  | program (path : String) (wasKnown : Bool)
  | nothing

/-- Remembers where a program was found. -/
def remember (name path : String) : Run Unit :=
  changeProcess fun process =>
    { process with known := (name, path) :: process.known.filter (·.1 ≠ name) }

/-- Finds out what a name stands for. -/
def meaningOf (name : String) : Run Meaning := do
  let process ← process
  if Parser.reserved.contains name then return .keyword
  match process.aliases.lookup name with
  | some text => return .aliasOf text
  | none => pure ()
  if (process.functions.lookup name).isSome then return .function
  else if special.contains name then return .special
  else if regular.contains name then return .regular
  else if name.toList.contains '/' then
    return if (← files).exists? name then .program name false else .nothing
  else
    match Executable.lookUp? (← files) (← searchPath) name with
    | none => return .nothing
    | some path =>
      let wasKnown := (process.known.lookup name).isSome
      remember name path
      return .program path wasKnown

/-- Says in one word what a name stands for. -/
def describe (name : String) : Run Nat := do
  let say (text : String) : Run Nat := do
    let _ ← print (text ++ "\n")
    return 0
  match ← meaningOf name with
  | .keyword | .function | .special | .regular => say name
  | .aliasOf text => say s!"alias {name}={quoted text}"
  | .program path _ => say path
  | .nothing => return 127

/-- Says what a name stands for. -/
def explain (name : String) : Run Nat := do
  let say (text : String) : Run Nat := do
    let _ ← print s!"{name} {text}\n"
    return 0
  match ← meaningOf name with
  | .keyword => say "is a shell keyword"
  | .aliasOf text => say s!"is an alias for {text}"
  | .function => say "is a shell function"
  | .special => say "is a special shell builtin"
  | .regular => say "is a shell builtin"
  | .program path wasKnown =>
    say (if wasKnown then s!"is a tracked alias for {path}" else s!"is {path}")
  | .nothing =>
    let _ ← print s!"{name}: not found\n"
    return 127

/-! ## Aliases -/

/-- The size of the table of aliases. -/
def aliasTableSize : Nat := 39

/-- Lists aliases, or makes some. -/
def defineAliases (arguments : List String) : Run Nat := do
  let say (name text : String) : Run Unit := do
    let _ ← print s!"{name}={quoted text}\n"
  match arguments with
  | [] =>
    let all := (← process).aliases.reverse.mergeSort fun first second =>
      Utility.tablePlace aliasTableSize first.1 ≤ Utility.tablePlace aliasTableSize second.1
    for (name, text) in all do
      say name text
    return 0
  | arguments =>
    Utility.forEach arguments fun argument => do
      match Utility.assignmentIn argument with
      | (name, some text) =>
        changeProcess fun process =>
          { process with aliases := (name, text) :: process.aliases.filter (·.1 ≠ name) }
        return 0
      | (name, none) =>
        match (← process).aliases.lookup name with
        | some text => say name text; return 0
        | none =>
          let _ ← write 2 s!"alias: {name} not found\n".toUTF8.toList
          return 1

/-- Forgets aliases. -/
def unalias (arguments : List String) : Run Nat := do
  match arguments with
  | "-a" :: _ =>
    changeProcess fun process => { process with aliases := [] }
    return 0
  | names =>
    Utility.forEach names fun name => do
      if ((← process).aliases.lookup name).isNone then
        let _ ← write 2 s!"unalias: {name} not found\n".toUTF8.toList
        return 1
      changeProcess fun process =>
        { process with aliases := process.aliases.filter (·.1 ≠ name) }
      return 0

/-! ## Programs -/

/-- The size of the table of programs that are known. -/
def programTableSize : Nat := 31

/-- Lists where programs have been found, finds some more, or forgets them all. -/
def hash (arguments : List String) : Run Nat := do
  match arguments with
  | [] =>
    let known := (← process).known.reverse.mergeSort fun first second =>
      Utility.tablePlace programTableSize first.1 ≤ Utility.tablePlace programTableSize second.1
    for (_, path) in known do
      let _ ← print (path ++ "\n")
    return 0
  | "-r" :: _ =>
    changeProcess fun process => { process with known := [] }
    return 0
  | names =>
    Utility.forEach names fun name => do
      match ← meaningOf name with
      | .nothing => blame "hash" s!"{name}: not found"; return 1
      | _ => return 0

end StepGraph.Shell.Builtin
