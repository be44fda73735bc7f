/-! The arguments of the program. A subcommand takes options with values, each at
most once and in any order; how much is logged may be said anywhere. Arguments are
read from left to right, so that a request for the version counts if nothing
before it was wrong. -/
namespace StepGraph.CommandLine

/-- What a run works on. -/
structure Target where
  manifest : String
  sandbox : String
  /-- The configuration, unless it is the one in the sandbox. -/
  config : Option String
  deriving DecidableEq

/-- What the program is asked to do. -/
inductive Invocation
  /-- Start a run at a group. -/
  | run (target : Target) (group : String)
  /-- Go on with a run that has been paused. -/
  | resume (target : Target)
  /-- Show the graph of a manifest. -/
  | graph (manifest : String)
  deriving DecidableEq

/-- What arguments come to. -/
inductive Request
  | invocation (invocation : Invocation)
  | version
  | help
  /-- The arguments are wrong. -/
  | misuse
  deriving DecidableEq

/-- An option that takes a value. -/
inductive Parameter
  | manifest
  | sandbox
  | config
  | group
  deriving DecidableEq

namespace Parameter

def name : Parameter → String
  | .manifest => "manifest"
  | .sandbox => "sandbox"
  | .config => "config"
  | .group => "group"

/-- Whether a value may be given: a path has to have a name, a group need not. -/
def admits (parameter : Parameter) (value : String) : Bool :=
  parameter = .group || !value.isEmpty

end Parameter

/-- A subcommand. -/
inductive Subcommand
  | run
  | resume
  | graph
  deriving DecidableEq

namespace Subcommand

/-- The subcommand of a name. -/
def ofName? : String → Option Subcommand
  | "run" => some .run
  | "resume" => some .resume
  | "graph" => some .graph
  | _ => none

/-- The options that a subcommand takes. -/
def parameters : Subcommand → List Parameter
  | .run => [.manifest, .sandbox, .config, .group]
  | .resume => [.manifest, .sandbox, .config]
  | .graph => [.manifest]

end Subcommand

/-- The values given so far. -/
abbrev Values := List (Parameter × String)

/-- What the values ask for, if none is missing. -/
def Subcommand.invocation? (subcommand : Subcommand) (values : Values) : Option Invocation := do
  let manifest ← values.lookup .manifest
  match subcommand with
  | .graph => return .graph manifest
  | .resume => return .resume ⟨manifest, ← values.lookup .sandbox, values.lookup .config⟩
  | .run =>
    return .run ⟨manifest, ← values.lookup .sandbox, values.lookup .config⟩
      (← values.lookup .group)

/-- What an argument is. -/
inductive Argument
  /-- What follows are no options. -/
  | endOfOptions
  /-- An option by its name, with the value behind an equals sign. -/
  | long (name : String) (value : Option String)
  /-- Options by their letters. -/
  | short (letters : List Char)
  | word (text : String)

/-- Takes an argument apart. A dash by itself is a word. -/
def Argument.ofText (text : String) : Argument :=
  match text.toList with
  | ['-', '-'] => .endOfOptions
  | '-' :: '-' :: rest =>
    match rest.dropWhile (· ≠ '=') with
    | [] => .long (String.ofList rest) none
    | _ :: value => .long (String.ofList (rest.takeWhile (· ≠ '='))) (some (String.ofList value))
  | '-' :: c :: letters => .short (c :: letters)
  | _ => .word text

/-- What letters ask for; nothing if they only say how much is logged. -/
def lettersRequest? (versionKnown : Bool) : List Char → Option Request
  | [] => none
  | c :: rest =>
    if c = 'v' then lettersRequest? versionKnown rest
    else if c = 'h' then some .help
    else if c = 'V' && versionKnown then some .version
    else some .misuse

/-- Reads what stands behind a subcommand. -/
def readOptions (subcommand : Subcommand) : (values : Values) → List String → Request
  | values, [] => finish values
  | values, text :: rest =>
    match Argument.ofText text with
    | .word _ => .misuse
    | .endOfOptions => if rest = [] then finish values else .misuse
    | .short letters =>
      match lettersRequest? false letters with
      | some request => request
      | none => readOptions subcommand values rest
    | .long "verbose" none => readOptions subcommand values rest
    | .long "help" none => .help
    | .long name value =>
      match subcommand.parameters.find? (·.name = name), value, rest with
      | none, _, _ => .misuse
      | some parameter, some value, rest =>
        if parameter.admits value && (values.lookup parameter).isNone then
          readOptions subcommand ((parameter, value) :: values) rest
        else .misuse
      | some _, none, [] => .misuse
      | some parameter, none, value :: rest =>
        match Argument.ofText value with
        | .word _ =>
          if parameter.admits value && (values.lookup parameter).isNone then
            readOptions subcommand ((parameter, value) :: values) rest
          else .misuse
        | _ => .misuse
where
  finish (values : Values) : Request :=
    (subcommand.invocation? values).elim .misuse .invocation

/-- What the word `help` asks for, from the words behind it: help may be asked for
about one subcommand or about itself. -/
def helpRequest : List String → Request
  | [] => .help
  | [name] => if name = "help" ∨ (Subcommand.ofName? name).isSome then .help else .misuse
  | _ => .misuse

/-- Reads the arguments of the program. -/
def read : List String → Request
  | [] => .misuse
  | text :: rest =>
    match Argument.ofText text with
    | .word "help" => helpRequest rest
    | .word name =>
      match Subcommand.ofName? name with
      | some subcommand => readOptions subcommand [] rest
      | none => .misuse
    | .endOfOptions => .misuse
    | .short letters =>
      match lettersRequest? true letters with
      | some request => request
      | none => read rest
    | .long "verbose" none => read rest
    | .long "version" none => .version
    | .long "help" none => .help
    | .long .. => .misuse

end StepGraph.CommandLine
