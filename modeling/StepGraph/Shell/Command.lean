/-! The language of the shell in which steps are written. A word is a list of
pieces, because what stands in quotes is treated unlike the rest: it is neither
split into fields nor matched against names of files. The text of a command whose
output is substituted is kept, and read when its turn comes. -/
namespace StepGraph.Shell

/-- What is done about a parameter that has no value. -/
inductive Fallback
  /-- Another word takes its place. -/
  | use
  /-- The parameter is given the value of the word. -/
  | assign
  /-- The shell gives up. -/
  | refuse
  /-- It is the parameter with a value whose place the word takes. -/
  | replace
  deriving DecidableEq

mutual

/-- Part of a word. -/
inductive Piece
  | plain (text : String)
  | quoted (text : String)
  | parameter (name : String) (use : Use) (quoted : Bool)
  | arithmetic (expression : List Piece) (quoted : Bool)
  /-- What a command prints. -/
  | output (source : String) (quoted : Bool)

/-- What of a parameter is used. -/
inductive Use
  | value
  | length
  /-- Nothing that could be said what it is. -/
  | invalid
  /-- `emptyToo` says whether an empty value counts as none. -/
  | fallback (kind : Fallback) (emptyToo : Bool) (word : List Piece)
  /-- The value without what a pattern matches at one of its ends. -/
  | trim (atEnd longest : Bool) (pattern : List Piece)

end

abbrev Word := List Piece

/-- The text of a word without quotes and parameters, if it is one: only such a
word can be a reserved one. -/
def Word.bare? : Word → Option String
  | [.plain text] => some text
  | _ => none

/-- What a redirection does to a descriptor. -/
inductive Redirection
  | read (path : Word)
  /-- Writes a file from its beginning; `replacing` says whether one that is there is
  written anew in any case. -/
  | write (replacing : Bool) (path : Word)
  /-- Reads and writes a file from its beginning, and keeps what is there. -/
  | update (path : Word)
  | append (path : Word)
  /-- The descriptor becomes that of a number; it is closed at a dash. -/
  | duplicate (source : Word)
  /-- Text that stands below the command. -/
  | document (text : Word)

/-- A redirection of a descriptor. -/
structure Redirect where
  descriptor : Nat
  kind : Redirection

/-- A command. -/
inductive Command
  | simple (line : Nat) (assignments : List (String × Word)) (words : List Word)
  | redirected (command : Command) (redirects : List Redirect)
  | pipeline (stages : List Command)
  | negated (command : Command)
  | both (first second : Command)
  | either (first second : Command)
  | sequence (commands : List Command)
  | background (command : Command)
  | choice (test yes no : Command)
  /-- A loop for as long as the test ends with success or, with `until`, without. -/
  | loop (stopsOnSuccess : Bool) (test body : Command)
  /-- A loop over words or, without words, over the parameters. -/
  | each (parameter : String) (words : Option (List Word)) (body : Command)
  | select (word : Word) (arms : List (List Word × Command))
  | subshell (body : Command)
  | define (name : String) (body : Command)

/-- The command that does nothing. -/
def Command.nothing : Command := .sequence []

end StepGraph.Shell
