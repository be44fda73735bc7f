import StepGraph.Shell.Lexer

/-! Reading shell text into commands. A script is taken line by line, so that what
stands above a mistake can run, and change what names in the lines below stand for. -/
namespace StepGraph.Shell

/-- A mistake in a script, and its line. -/
structure SyntaxError where
  line : Nat
  message : String

/-- What is left to read of a script. -/
structure Script where
  /-- The tokens, each with the number of its line. -/
  tokens : List (Token × Nat)
  /-- The documents that the tokens announce. -/
  documents : List Word
  /-- The line at the end of the text. -/
  lastLine : Nat

/-- A script from its beginning. -/
def Script.ofText (text : String) : Script :=
  let lexed := lex text
  ⟨lexed.tokens, lexed.documents, 1 + text.toList.count '\n'⟩

/-- Names of commands, and the text for which each stands. -/
abbrev Aliases := List (String × String)

namespace Parser

/-- Reads commands off the tokens. -/
abbrev Reader := ReaderT Aliases (StateT Script (Except SyntaxError))

/-- The next token. -/
def peek : Reader (Option Token) := do return (← get).tokens.head?.map Prod.fst

/-- Takes the next token. -/
def advance : Reader Unit :=
  modify fun left =>
    match left.tokens with
    | [] => left
    | _ :: tokens => { left with tokens }

/-- The line of the next token. -/
def currentLine : Reader Nat := do
  let left ← get
  return (left.tokens.head?.map Prod.snd).getD left.lastLine

def reserved : List String :=
  ["!", "case", "do", "done", "elif", "else", "esac", "fi", "for", "if", "in", "then", "until",
    "while", "\x7b", "\x7d"]

/-- The names of commands that no function can take. -/
def specialNames : List String :=
  [":", ".", "break", "continue", "eval", "exec", "exit", "export", "local", "readonly", "return",
    "set", "shift", "times", "trap", "unset"]

/-- The words that end a list of commands. -/
def closing : List String := ["do", "done", "elif", "else", "esac", "fi", "then", "\x7d"]

def redirections : List String := ["<<-", "<<", ">>", "<&", ">&", "<>", ">|", "<", ">"]

/-- Fails at the next token. Where `keywords` does not hold, a reserved word is a word
like others. -/
def unexpectedAmong {α : Type} (keywords : Bool) (expecting : Option String) : Reader α := do
  let line ← currentLine
  let hint := (expecting.map fun text => s!" (expecting \"{text}\")").getD ""
  let message :=
    match ← peek with
    | none => s!"Syntax error: end of file unexpected{hint}"
    | some .newline => s!"Syntax error: newline unexpected{hint}"
    | some (.broken message) => message
    | some (.descriptor _) => s!"Syntax error: redirection unexpected{hint}"
    | some (.operator text) =>
      if redirections.contains text then s!"Syntax error: redirection unexpected{hint}"
      else s!"Syntax error: \"{text}\" unexpected{hint}"
    | some (.word word) =>
      match word.bare? with
      | some text =>
        if keywords && reserved.contains text then
          s!"Syntax error: \"{text}\" unexpected{hint}"
        else s!"Syntax error: word unexpected{hint}"
      | none => s!"Syntax error: word unexpected{hint}"
  throw ⟨line, message⟩

/-- Fails at the next token. -/
def unexpected {α : Type} (expecting : Option String) : Reader α := unexpectedAmong true expecting

/-- The next token, if it is a word that can be a reserved one. -/
def bare? : Reader (Option String) := do
  match ← peek with
  | some (.word word) => return word.bare?
  | _ => return none

/-- Puts what an alias stands for in place of the next token, if that is one. The
aliases of `seen` stand for themselves; `fuel` bounds how many stand for one another. -/
def replaceAlias : (fuel : Nat) → (seen : List String) → Reader Unit
  | 0, _ => pure ()
  | fuel + 1, seen => do
    match ← bare? with
    | none => pure ()
    | some name =>
      if reserved.contains name || seen.contains name then pure ()
      else
        match (← read).lookup name with
        | none => pure ()
        | some text =>
          let line ← currentLine
          let tokens := (lex text).tokens.map fun entry => (entry.1, line)
          modify fun left => { left with tokens := tokens ++ left.tokens.drop 1 }
          replaceAlias fuel (name :: seen)

/-- Whether an operator is next. -/
def atOperator (text : String) : Reader Bool := do
  match ← peek with
  | some (.operator found) => return found = text
  | _ => return false

/-- Takes an operator that has to be next. -/
def operator (text : String) : Reader Unit := do
  if ← atOperator text then advance else unexpectedAmong false (some text)

/-- Takes a reserved word that has to be next. -/
def keyword (text : String) : Reader Unit := do
  if (← bare?) = some text then advance else unexpected (some text)

/-- Takes a word that has to be next. -/
def word : Reader Word := do
  match ← peek with
  | some (.word word) => advance; return word
  | _ => unexpected none

/-- Passes over ends of lines. -/
def skipNewlines : Reader Unit :=
  modify fun left =>
    { left with tokens := left.tokens.dropWhile fun entry => entry.1 matches .newline }

/-- Whether what comes next ends a list of commands. -/
def atListEnd : Reader Bool := do
  match ← peek with
  | none => return true
  | some (.operator text) => return text = ")" || text = ";;"
  | some (.word word) => return (word.bare?.map closing.contains).getD false
  | _ => return false

/-- Takes the next document. -/
def document : Reader Word := do
  let left ← get
  match left.documents with
  | [] => return []
  | word :: documents => set { left with documents }; return word

/-- Takes a redirection, if one is next. -/
def redirect? : Reader (Option Redirect) := do
  let number ←
    match ← peek with
    | some (.descriptor number) => advance; pure (some number)
    | _ => pure none
  match ← peek with
  | some (.operator text) =>
    if redirections.contains text then
      advance
      match text with
      | "<<" | "<<-" => return some ⟨number.getD 0, .document (← document)⟩
      | "<" => return some ⟨number.getD 0, .read (← word)⟩
      | "<&" => return some ⟨number.getD 0, .duplicate (← word)⟩
      | ">>" => return some ⟨number.getD 1, .append (← word)⟩
      | ">&" => return some ⟨number.getD 1, .duplicate (← word)⟩
      | "<>" => return some ⟨number.getD 0, .update (← word)⟩
      | ">|" => return some ⟨number.getD 1, .write true (← word)⟩
      | _ => return some ⟨number.getD 1, .write false (← word)⟩
    else return none
  | _ => return none

/-- Takes redirections for as long as they come; `fuel` bounds their number. -/
def redirects : (fuel : Nat) → Reader (List Redirect)
  | 0 => return []
  | fuel + 1 => do
    match ← redirect? with
    | none => return []
    | some redirect => return redirect :: (← redirects fuel)

/-- An assignment, taken apart, if a word is one. -/
def assignment? (word : Word) : Option (String × Word) :=
  match word with
  | .plain text :: rest =>
    match Lexer.name? text.toList with
    | some (name, '=' :: value) =>
      if Lexer.isNameStart (name.toList.headD '0') then
        some (name, if value = [] then rest else .plain (String.ofList value) :: rest)
      else none
    | _ => none
  | _ => none

/-- Adds redirections to a command. -/
def withRedirects (command : Command) : List Redirect → Command
  | [] => command
  | redirects => .redirected command redirects

/-- The parts of a simple command, read so far in reverse. -/
structure Parts where
  assignments : List (String × Word)
  words : List Word
  redirects : List Redirect

/-- Takes the parts of a simple command; `fuel` bounds their number. -/
def parts : (fuel : Nat) → Parts → Reader Parts
  | 0, found => return found
  | fuel + 1, found => do
    match ← peek with
    | some (.word word) =>
      advance
      match found.words, assignment? word with
      | [], some entry =>
        replaceAlias (← read).length []
        parts fuel { found with assignments := entry :: found.assignments }
      | words, _ => parts fuel { found with words := word :: words }
    | _ =>
      match ← redirect? with
      | some redirect => parts fuel { found with redirects := redirect :: found.redirects }
      | none => return found

/-- Takes words up to the end of a line; `fuel` bounds their number. -/
def words : (fuel : Nat) → Reader (List Word)
  | 0 => return []
  | fuel + 1 => do
    match ← peek with
    | some (.word word) => advance; return word :: (← words fuel)
    | _ => return []

/-- Takes the separator behind the words of a loop. -/
def separator : Reader Unit := do
  if ← atOperator ";" then advance
  skipNewlines

/-- Takes patterns up to the parenthesis behind them; `fuel` bounds their number. -/
def patterns : (fuel : Nat) → Reader (List Word)
  | 0 => return []
  | fuel + 1 => do
    let first ← if (← peek).isNone then unexpected (some ")") else word
    if ← atOperator "|" then
      advance
      return first :: (← patterns fuel)
    else
      operator ")"
      return [first]

mutual

/-- Takes commands up to what ends the list. `fuel` bounds the tokens, here and
below. -/
def list : (fuel : Nat) → Reader (List Command)
  | 0 => return []
  | fuel + 1 => do
    skipNewlines
    if ← atListEnd then return []
    let command ← chain fuel
    match ← peek with
    | some (.operator "&") => advance; return .background command :: (← list fuel)
    | some (.operator ";") | some .newline => advance; return command :: (← list fuel)
    | _ => return [command]

/-- Takes a list of commands that is not empty; `closing` is to stand behind it. -/
def body : (fuel : Nat) → (closing : String) → Reader Command
  | 0, _ => return .nothing
  | fuel + 1, closing => do
    match ← list fuel with
    | [] => unexpected (if (← peek).isNone then some closing else none)
    | [command] => return command
    | commands => return .sequence commands

/-- Takes pipelines joined by `&&` and `||`. -/
def chain : (fuel : Nat) → Reader Command
  | 0 => return .nothing
  | fuel + 1 => do chainAfter fuel (← pipeline fuel)

/-- Takes what is joined to a command. -/
def chainAfter : (fuel : Nat) → Command → Reader Command
  | 0, first => return first
  | fuel + 1, first => do
    match ← peek with
    | some (.operator "&&") =>
      advance; skipNewlines
      chainAfter fuel (.both first (← pipeline fuel))
    | some (.operator "||") =>
      advance; skipNewlines
      chainAfter fuel (.either first (← pipeline fuel))
    | _ => return first

/-- Takes a pipeline, perhaps a negated one. -/
def pipeline : (fuel : Nat) → Reader Command
  | 0 => return .nothing
  | fuel + 1 => do
    if (← bare?) = some "!" then
      advance
      return .negated (← pipeline fuel)
    match ← stages fuel with
    | [command] => return command
    | commands => return .pipeline commands

/-- Takes the stages of a pipeline. -/
def stages : (fuel : Nat) → Reader (List Command)
  | 0 => return []
  | fuel + 1 => do
    let first ← command fuel
    if ← atOperator "|" then
      advance; skipNewlines
      return first :: (← stages fuel)
    else return [first]

/-- Takes a command and its redirections. -/
def command : (fuel : Nat) → Reader Command
  | 0 => return .nothing
  | fuel + 1 => do
    replaceAlias (← read).length []
    if ← atOperator "(" then
      advance
      let inside ← body fuel ")"
      operator ")"
      return withRedirects (.subshell inside) (← redirects fuel)
    match ← bare? with
    | some "\x7b" =>
      advance
      let inside ← body fuel "\x7d"
      keyword "\x7d"
      return withRedirects inside (← redirects fuel)
    | some "if" =>
      advance
      let choice ← choice fuel
      return withRedirects choice (← redirects fuel)
    | some "while" => advance; loop fuel false
    | some "until" => advance; loop fuel true
    | some "for" => advance; each fuel
    | some "case" => advance; select fuel
    | some text => if reserved.contains text then unexpected none else simple fuel
    | none => simple fuel

/-- Takes a choice behind its first word, with the word that ends it. -/
def choice : (fuel : Nat) → Reader Command
  | 0 => return .nothing
  | fuel + 1 => do
    let test ← body fuel "then"
    keyword "then"
    let yes ← body fuel "fi"
    match ← bare? with
    | some "elif" => advance; return .choice test yes (← choice fuel)
    | some "else" =>
      advance
      let no ← body fuel "fi"
      keyword "fi"
      return .choice test yes no
    | _ => keyword "fi"; return .choice test yes .nothing

/-- Takes a loop behind its first word. -/
def loop : (fuel : Nat) → (stopsOnSuccess : Bool) → Reader Command
  | 0, _ => return .nothing
  | fuel + 1, stopsOnSuccess => do
    let test ← body fuel "do"
    keyword "do"
    let inside ← body fuel "done"
    keyword "done"
    return withRedirects (.loop stopsOnSuccess test inside) (← redirects fuel)

/-- Takes a loop over words behind its first word. -/
def each : (fuel : Nat) → Reader Command
  | 0 => return .nothing
  | fuel + 1 => do
    let name :=
      match (← word).bare? with
      | some name => name
      | none => ""
    if !(name.toList.all Lexer.isNameChar && Lexer.isNameStart (name.toList.headD '0')) then
      throw ⟨← currentLine, "Syntax error: Bad for loop variable"⟩
    skipNewlines
    let items ←
      if (← bare?) = some "in" then
        advance
        pure (some (← words fuel))
      else pure none
    separator
    keyword "do"
    let inside ← body fuel "done"
    keyword "done"
    return withRedirects (.each name items inside) (← redirects fuel)

/-- Takes a selection behind its first word. -/
def select : (fuel : Nat) → Reader Command
  | 0 => return .nothing
  | fuel + 1 => do
    let subject ← word
    skipNewlines
    keyword "in"
    skipNewlines
    let arms ← arms fuel
    keyword "esac"
    return withRedirects (.select subject arms) (← redirects fuel)

/-- Takes the arms of a selection. -/
def arms : (fuel : Nat) → Reader (List (List Word × Command))
  | 0 => return []
  | fuel + 1 => do
    if (← bare?) = some "esac" then return []
    if ← atOperator "(" then advance
    let choices ← patterns fuel
    let commands ← list fuel
    if ← atOperator ";;" then
      advance
      skipNewlines
      return (choices, .sequence commands) :: (← arms fuel)
    else
      if (← bare?) ≠ some "esac" then unexpected (some ";;")
      return [(choices, .sequence commands)]

/-- Takes a simple command, or the definition of a function. -/
def simple : (fuel : Nat) → Reader Command
  | 0 => return .nothing
  | fuel + 1 => do
    let line ← currentLine
    let found ← parts fuel ⟨[], [], []⟩
    match found with
    | ⟨[], [], []⟩ => unexpected none
    | ⟨[], [name], []⟩ =>
      if ← atOperator "(" then
        advance
        operator ")"
        let name := name.bare?.getD ""
        if !Lexer.isName name || specialNames.contains name then
          throw ⟨line, "Syntax error: Bad function name"⟩
        skipNewlines
        let inside ← command fuel
        return .define name inside
      else return .simple line [] [name]
    | ⟨assignments, words, redirects⟩ =>
      return withRedirects (.simple line assignments.reverse words.reverse) redirects.reverse

end

/-- Takes the commands of one line of the script. -/
def line : (fuel : Nat) → Reader (List Command)
  | 0 => return []
  | fuel + 1 => do
    let command ← chain fuel
    let more (command : Command) : Reader (List Command) := do
      match ← peek with
      | none => return [command]
      | some .newline => advance; return [command]
      | _ => return command :: (← line fuel)
    match ← peek with
    | none => return [command]
    | some .newline => advance; return [command]
    | some (.operator "&") => advance; more (.background command)
    | some (.operator ";") => advance; more command
    | _ => unexpected none

end Parser

/-- Takes the next line of a script, if there is one: the command that it is, and what
is left. -/
def Script.next? (script : Script) (aliases : Aliases) :
    Option (Except SyntaxError (Command × Script)) :=
  let tokens := script.tokens.dropWhile fun entry => entry.1 matches .newline
  if tokens.isEmpty then none
  else
    let longest := aliases.foldl (fun length entry => max length entry.2.length) 0
    let fuel := 8 * (tokens.length + aliases.length * longest) + 8
    some <| ((Parser.line fuel).run aliases |>.run { script with tokens }).map
      fun (commands, rest) => (.sequence commands, rest)

end StepGraph.Shell
