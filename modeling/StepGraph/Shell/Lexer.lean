import StepGraph.Shell.Command
import StepGraph.Text.Decimal

/-! Reading shell text into tokens. Quotes and expansions are taken apart here.
The text below a command that a redirection asks for is read at the end of the
line and set aside, in the order of the redirections. -/
namespace StepGraph.Shell

/-- Part of a command line. -/
inductive Token
  | word (word : Word)
  | operator (text : String)
  /-- The number of the descriptor of the redirection behind it. -/
  | descriptor (number : Nat)
  | newline
  /-- Text that cannot be read. -/
  | broken (message : String)

namespace Lexer

/-- Where pieces are being read, which decides what ends them and what quotes. -/
inductive Place
  /-- Outside quotes. -/
  | word
  /-- Between double quotes. -/
  | quotes
  /-- In the braces of a parameter, perhaps between double quotes. -/
  | braces (quoted : Bool)
  /-- In text that is read to its end. -/
  | document
  deriving DecidableEq

/-- Whether text in this place counts as quoted. -/
def Place.isQuoted : Place → Bool
  | .word | .braces false => false
  | .quotes | .braces true | .document => true

/-- The characters that a backslash quotes in this place. -/
def Place.escapes (place : Place) (c : Char) : Bool :=
  match place with
  | .word | .braces false => true
  | .quotes => c = '$' || c = '\x60' || c = '"' || c = '\\'
  | .braces true => c = '$' || c = '\x60' || c = '"' || c = '\\' || c = '\x7d'
  | .document => c = '$' || c = '\x60' || c = '\\'

def isNameStart (c : Char) : Bool := c.isAlpha || c = '_'

def isNameChar (c : Char) : Bool := c.isAlphanum || c = '_'

/-- Whether a text can be the name of a variable. -/
def isName (text : String) : Bool :=
  match text.toList with
  | [] => false
  | c :: rest => isNameStart c && rest.all isNameChar

/-- Characters that end a word. -/
def isMeta (c : Char) : Bool :=
  c = ' ' || c = '\t' || c = '\n' || c = '|' || c = '&' || c = ';' || c = '<' || c = '>' ||
    c = '(' || c = ')'

/-- The parameters that have one character for a name. -/
def isSpecial (c : Char) : Bool :=
  Text.Decimal.isDigit c || c = '@' || c = '*' || c = '#' || c = '?' || c = '$' || c = '!' || c = '-'

/-- Puts a piece before others; texts of one kind become one. -/
def push : Piece → Word → Word
  | .plain first, .plain second :: rest => .plain (first ++ second) :: rest
  | .quoted first, .quoted second :: rest => .quoted (first ++ second) :: rest
  | piece, rest => piece :: rest

/-- The text of one character. -/
def literal (place : Place) (c : Char) : Piece :=
  if place.isQuoted then .quoted c.toString else .plain c.toString

/-- Splits behind the quote that closes. -/
def untilQuote : List Char → Option (List Char × List Char)
  | [] => none
  | '\'' :: rest => some ([], rest)
  | c :: rest => (untilQuote rest).map fun (inside, rest) => (c :: inside, rest)

/-- What a scan for a closing parenthesis is inside of. -/
inductive Inside
  | parentheses
  /-- A selection, whose patterns end with parentheses of their own. -/
  | selection
  | quotes
  | graves
  | braces
  deriving DecidableEq

/-- How far a scan for a closing parenthesis has come. -/
structure Scan where
  /-- What it is inside of, the innermost first. -/
  inside : List Inside
  /-- The word that is being read, in reverse. -/
  word : List Char
  /-- Whether a command begins at this word. -/
  atCommand : Bool
  /-- The delimiters of the texts that follow the line, and whether tabs before them
  are left out. -/
  announced : List (List Char × Bool)

namespace Scan

/-- The words behind which a command begins. -/
def openers : List String :=
  ["if", "then", "else", "elif", "while", "until", "do", "!", "\x7b"]

/-- Ends the word that is being read. -/
def endWord (scan : Scan) : Scan :=
  let word := String.ofList scan.word.reverse
  let scan :=
    if word = "" then scan
    else if !scan.atCommand then scan
    else if word = "case" then
      { scan with inside := .selection :: scan.inside, atCommand := false }
    else if word = "esac" && scan.inside.head? = some .selection then
      { scan with inside := scan.inside.drop 1, atCommand := false }
    else { scan with atCommand := openers.contains word }
  { scan with word := [] }

/-- Ends the word, and begins a command behind it. -/
def beginCommand (scan : Scan) : Scan := { scan.endWord with atCommand := true }

/-- Adds a character to the word that is being read. -/
def add (scan : Scan) (c : Char) : Scan := { scan with word := c :: scan.word }

/-- Goes into something. -/
def enter (scan : Scan) (inside : Inside) : Scan :=
  { scan with inside := inside :: scan.inside, word := [], atCommand := inside = .parentheses }

/-- Comes out of what the scan is inside of. -/
def leave (scan : Scan) : Scan :=
  { scan with inside := scan.inside.drop 1, word := ['"'], atCommand := false }

/-- Whether the scan reads commands. -/
def readsCode (scan : Scan) : Bool :=
  match scan.inside.head? with
  | some .parentheses | some .selection => true
  | _ => false

end Scan

/-- The delimiter behind an announcement, without its quotes, and what follows. -/
def delimiterAhead (chars : List Char) : List Char × Bool × List Char :=
  let (withoutTabs, rest) := match chars with
    | '-' :: rest => (true, rest)
    | rest => (false, rest)
  let rest := rest.dropWhile fun c => c = ' ' || c = '\t'
  let word := rest.takeWhile (!isMeta ·)
  (word.filter fun c => c ≠ '\'' && c ≠ '"' && c ≠ '\\', withoutTabs, rest.drop word.length)

/-- How many characters the texts that follow a line take; `fuel` bounds the lines. -/
def announcedLength : (fuel : Nat) → List (List Char × Bool) → List Char → Nat
  | 0, _, _ => 0
  | _, [], _ => 0
  | _, _, [] => 0
  | fuel + 1, (delimiter, withoutTabs) :: others, chars =>
    let line := chars.takeWhile (· ≠ '\n')
    let shown := if withoutTabs then line.dropWhile (· = '\t') else line
    let rest := (chars.drop line.length).drop 1
    let taken := chars.length - rest.length
    taken + announcedLength fuel
      (if shown = delimiter then others else (delimiter, withoutTabs) :: others) rest

/-- Splits behind the parenthesis that closes the innermost open one; `fuel` bounds
the characters. -/
def untilClosed : (fuel : Nat) → Scan → List Char → Option (List Char × List Char)
  | 0, _, _ => none
  | _, _, [] => none
  | fuel + 1, scan, c :: rest =>
    let go (scan : Scan) (count : Nat) : Option (List Char × List Char) :=
      (untilClosed fuel scan (rest.drop count)).map fun (inside, after) =>
        (c :: rest.take count ++ inside, after)
    let code := scan.readsCode
    let top := scan.inside.head?
    if c = '\\' then go (scan.add c) 1
    else if c = '\'' && (code || top = some .braces) then
      match untilQuote rest with
      | none => none
      | some (quoted, _) => go (scan.add c) (quoted.length + 1)
    else if c = '"' then
      if top = some .quotes then go scan.leave 0 else go (scan.enter .quotes) 0
    else if c = '\x60' then
      if top = some .graves then go scan.leave 0 else go (scan.enter .graves) 0
    else if c = '$' && rest.head? = some '(' then go (scan.enter .parentheses) 1
    else if c = '$' && rest.head? = some '\x7b' then go (scan.enter .braces) 1
    else if c = '\x7d' && top = some .braces then go scan.leave 0
    else if !code then go scan 0
    else if c = '(' then go ((scan.endWord).enter .parentheses) 0
    else if c = ')' then
      let scan := scan.endWord
      if scan.inside.head? = some .selection then go scan.beginCommand 0
      else if scan.inside.length ≤ 1 then some ([], rest)
      else go scan.leave 0
    else if c = '#' && scan.word = [] then go scan (rest.takeWhile (· ≠ '\n')).length
    else if c = '<' && rest.head? = some '<' then
      let (delimiter, withoutTabs, after) := delimiterAhead (rest.drop 1)
      let scan := { scan.endWord with announced := scan.announced ++ [(delimiter, withoutTabs)] }
      go scan (rest.length - after.length)
    else if c = '\n' then
      go { scan.beginCommand with announced := [] }
        (announcedLength rest.length scan.announced rest)
    else if c = ';' || c = '&' || c = '|' then go scan.beginCommand 0
    else if c = ' ' || c = '\t' then go scan.endWord 0
    else go (scan.add c) 0

/-- Splits behind the parenthesis that closes the one in front of a text. -/
def insideParentheses? (chars : List Char) : Option (List Char × List Char) :=
  untilClosed (chars.length + 1) ⟨[.parentheses], [], true, []⟩ chars

/-- Splits behind the grave accent that closes; a backslash takes its meaning
away. -/
def untilGrave : List Char → Option (List Char × List Char)
  | [] => none
  | '\x60' :: rest => some ([], rest)
  | '\\' :: c :: rest =>
    (untilGrave rest).map fun (inside, rest) =>
      (if c = '\x60' || c = '\\' || c = '$' then c :: inside else '\\' :: c :: inside, rest)
  | c :: rest => (untilGrave rest).map fun (inside, rest) => (c :: inside, rest)

/-- What stands between the parentheses of an arithmetic expression, if the text
between the parentheses of a substitution is one. -/
def arithmetic? (inside : List Char) : Option (List Char) :=
  match inside with
  | '(' :: rest =>
    match insideParentheses? rest with
    | some (expression, []) => some expression
    | _ => none
  | _ => none

/-- The operator behind the name of a parameter in braces. -/
def operator? : List Char → Option ((Word → Use) × List Char)
  | ':' :: '-' :: rest => some (.fallback .use true, rest)
  | '-' :: rest => some (.fallback .use false, rest)
  | ':' :: '=' :: rest => some (.fallback .assign true, rest)
  | '=' :: rest => some (.fallback .assign false, rest)
  | ':' :: '?' :: rest => some (.fallback .refuse true, rest)
  | '?' :: rest => some (.fallback .refuse false, rest)
  | ':' :: '+' :: rest => some (.fallback .replace true, rest)
  | '+' :: rest => some (.fallback .replace false, rest)
  | '%' :: '%' :: rest => some (.trim true true, rest)
  | '%' :: rest => some (.trim true false, rest)
  | '#' :: '#' :: rest => some (.trim false true, rest)
  | '#' :: rest => some (.trim false false, rest)
  | _ => none

/-- Splits a parameter's name from the text that begins with it. -/
def name? : List Char → Option (String × List Char)
  | [] => none
  | c :: rest =>
    if isNameStart c then
      some (String.ofList (c :: rest.takeWhile isNameChar), rest.dropWhile isNameChar)
    else if isSpecial c then some (c.toString, rest)
    else none

def unterminated : String := "Syntax error: Unterminated quoted string"

def missingBrace : String := "Syntax error: Missing '\x7d'"

/-- What the beginning of the text in the braces of a parameter says. -/
inductive Braced
  /-- The braces are read to their end. -/
  | whole (name : String) (use : Use) (rest : List Char)
  /-- A name was read, and something stands behind it. -/
  | named (name : String) (rest : List Char)
  /-- The braces do not say anything. -/
  | invalid (rest : List Char)

/-- Reads the beginning of the text in the braces of a parameter. A number of several
digits is a name there, and a number sign in front asks for a length. -/
def braced (chars : List Char) : Braced :=
  let named (name : String) (rest : List Char) : Braced :=
    match rest with
    | '\x7d' :: rest => .whole name .value rest
    | rest => .named name rest
  let lengthOf (name : String) (rest : List Char) : Braced :=
    match rest with
    | '\x7d' :: rest => .whole name .length rest
    | rest => .invalid rest
  let long (chars : List Char) : Option (String × List Char) :=
    match chars.takeWhile Text.Decimal.isDigit with
    | [] => if (chars.head?.map isNameStart).getD false then name? chars else none
    | digits => some (String.ofList digits, chars.dropWhile Text.Decimal.isDigit)
  match long chars, chars with
  | some (name, rest), _ => named name rest
  | none, '#' :: rest =>
    match long rest, rest with
    | some (name, rest), _ => lengthOf name rest
    | none, c :: '\x7d' :: after =>
      if c = '\x7d' then .whole "#" .value ('\x7d' :: after)
      else if isSpecial c then .whole c.toString .length after
      else .invalid ('\x7d' :: after)
    | none, rest => named "#" rest
  | none, c :: rest =>
    if isSpecial c then named c.toString rest
    else .invalid (if c = '\x7d' then '\x7d' :: rest else rest)
  | none, [] => .invalid []

mutual

/-- Reads pieces up to what ends them, which is taken along except behind a
word. `fuel` bounds the characters. -/
def pieces : (fuel : Nat) → Place → List Char → Except String (Word × List Char)
  | 0, _, _ => .error unterminated
  | _ + 1, place, [] =>
    match place with
    | .word | .document => .ok ([], [])
    | .quotes => .error unterminated
    | .braces _ => .error missingBrace
  | fuel + 1, place, c :: rest =>
    let add (piece : Piece) (rest : List Char) : Except String (Word × List Char) := do
      let (word, rest) ← pieces fuel place rest
      return (push piece word, rest)
    if place = .word && isMeta c then .ok ([], c :: rest)
    else if c = '"' && place = .quotes then .ok ([], rest)
    else if c = '\x7d' && (place matches .braces _) then .ok ([], rest)
    else if c = '\\' then
      match rest with
      | [] => add (literal place c) []
      | '\n' :: rest => pieces fuel place rest
      | d :: rest =>
        if place.escapes d then add (.quoted d.toString) rest else add (literal place c) (d :: rest)
    else if c = '\'' && !place.isQuoted then
      match untilQuote rest with
      | none => .error unterminated
      | some (inside, rest) => add (.quoted (String.ofList inside)) rest
    else if c = '"' && place ≠ .document then do
      let (inside, rest) ← pieces fuel .quotes rest
      let (word, rest) ← pieces fuel place rest
      -- quotes around nothing are an empty text, which is more than no text
      return (if inside.isEmpty then push (.quoted "") word else inside.foldr push word, rest)
    else if c = '\x60' then
      match untilGrave rest with
      | none => .error "Syntax error: EOF in backquote substitution"
      | some (inside, rest) => add (.output (String.ofList inside) place.isQuoted) rest
    else if c = '$' then do
      match ← expansion? fuel place rest with
      | some (piece, rest) => add piece rest
      | none => add (literal place c) rest
    else add (literal place c) rest

/-- Reads what stands behind a dollar sign, if it is an expansion. -/
def expansion? : (fuel : Nat) → Place → List Char → Except String (Option (Piece × List Char))
  | 0, _, _ => .error unterminated
  | fuel + 1, place, chars =>
    match chars with
    | '(' :: rest =>
      match insideParentheses? rest with
      | none => .error "Syntax error: end of file unexpected (expecting \")\")"
      | some (inside, rest) =>
        match arithmetic? inside with
        | some expression => do
          let (word, _) ← pieces fuel .document expression
          return some (.arithmetic word place.isQuoted, rest)
        | none => .ok (some (.output (String.ofList inside) place.isQuoted, rest))
    | '\x7b' :: rest => do
      let invalid (rest : List Char) : Except String (Option (Piece × List Char)) := do
        let (_, rest) ← pieces fuel (.braces place.isQuoted) rest
        return some (.parameter "" .invalid place.isQuoted, rest)
      match braced rest with
      | .whole name use rest => return some (.parameter name use place.isQuoted, rest)
      | .invalid rest => invalid rest
      | .named name rest =>
        match operator? rest with
        | none => invalid (rest.drop 1)
        | some (use, rest) => do
          let (word, rest) ← pieces fuel (.braces place.isQuoted) rest
          return some (.parameter name (use word) place.isQuoted, rest)
    | chars =>
      .ok <| (name? chars).map fun (name, rest) => (.parameter name .value place.isQuoted, rest)

end

/-! ## Lines -/

/-- A text that is to follow at the end of the line. -/
structure Announced where
  delimiter : String
  /-- Whether the text is taken as it stands. -/
  verbatim : Bool
  /-- Whether tabs at the beginning of a line are left out. -/
  withoutTabs : Bool

/-- The text that ends a document. -/
def delimiterOf (word : Word) : String × Bool :=
  word.foldl (fun (text, verbatim) piece =>
    match piece with
    | .plain more => (text ++ more, verbatim)
    | .quoted more => (text ++ more, true)
    | _ => (text, verbatim)) ("", false)

/-- Reads the lines of a document. Says how many lines it took. -/
def documentLines (announced : Announced) :
    (fuel : Nat) → List Char → List Char × Nat × List Char
  | 0, chars => ([], 0, chars)
  | _ + 1, [] => ([], 0, [])
  | fuel + 1, chars =>
    let line := chars.takeWhile (· ≠ '\n')
    let ending := (chars.dropWhile (· ≠ '\n')).take 1
    let rest := (chars.dropWhile (· ≠ '\n')).drop 1
    let line := if announced.withoutTabs then line.dropWhile (· = '\t') else line
    if String.ofList line = announced.delimiter then ([], 1, rest)
    else
      let (more, count, rest) := documentLines announced fuel rest
      (line ++ ending ++ more, count + 1, rest)

/-- Reads the documents that a line announces, and says how many lines they
took. -/
def documents : List Announced → List Char → Except String (List Word × Nat × List Char)
  | [], chars => .ok ([], 0, chars)
  | announced :: others, chars => do
    let (text, count, rest) := documentLines announced (chars.length + 1) chars
    let word ←
      if announced.verbatim then pure [Piece.quoted (String.ofList text)]
      else (pieces (text.length + 1) .document text).map Prod.fst
    let (words, more, rest) ← documents others rest
    return (word :: words, count + more, rest)

/-- The operators, the longer ones first. -/
def operators : List String :=
  ["<<-", "&&", "||", ";;", "<<", ">>", "<&", ">&", "<>", ">|", "|", "&", ";", "<", ">", "(", ")"]

/-- The operator that a text begins with. -/
def operatorAt? (chars : List Char) : Option (String × List Char) :=
  (operators.find? (·.toList.isPrefixOf chars)).map fun text => (text, chars.drop text.length)

/-- The text of a program, read. -/
structure Lexed where
  /-- The tokens, each with the number of its line. -/
  tokens : List (Token × Nat)
  /-- The documents, in the order in which they are announced. -/
  documents : List Word

/-- Puts a token before others. -/
def Lexed.cons (token : Token) (line : Nat) (lexed : Lexed) : Lexed :=
  { lexed with tokens := (token, line) :: lexed.tokens }

/-- What the lexer expects of the next word. -/
inductive Expected
  | anything
  /-- The delimiter of a document. -/
  | delimiter (withoutTabs : Bool)

/-- Reads tokens. `fuel` bounds the characters. -/
def tokens : (fuel : Nat) → (line : Nat) → Expected → List Announced → List Char → Lexed
  | 0, _, _, _, _ => ⟨[], []⟩
  | _ + 1, line, .delimiter _, _, [] =>
    ⟨[(.broken "Syntax error: end of file unexpected", line)], []⟩
  | _ + 1, _, .anything, _, [] => ⟨[], []⟩
  | fuel + 1, line, expected, announced, c :: rest =>
    if c = ' ' || c = '\t' then tokens fuel line expected announced rest
    else if c = '\\' && rest.head? = some '\n' then
      tokens fuel (line + 1) expected announced (rest.drop 1)
    else if c = '#' then tokens fuel line expected announced (rest.dropWhile (· ≠ '\n'))
    else if c = '\n' then
      match documents announced rest with
      | .error message => ⟨[(.broken message, line + rest.count '\n' + 1)], []⟩
      | .ok (words, count, rest) =>
        let lexed := tokens fuel (line + 1 + count) .anything [] rest
        { lexed.cons .newline line with documents := words ++ lexed.documents }
    else
      match operatorAt? (c :: rest) with
      | some (text, rest) =>
        let expected :=
          if text = "<<" then .delimiter false
          else if text = "<<-" then .delimiter true
          else .anything
        (tokens fuel line expected announced rest).cons (.operator text) line
      | none =>
        match pieces (rest.length + 2) .word (c :: rest) with
        | .error message =>
          -- what is missing is missed at the end
          ⟨[(.broken message, line + (c :: rest).count '\n')], []⟩
        | .ok (word, after) =>
          let taken := (c :: rest).take (rest.length + 1 - after.length)
          let next := line + taken.count '\n'
          match expected with
          | .delimiter withoutTabs =>
            let (delimiter, verbatim) := delimiterOf word
            tokens fuel next .anything (announced ++ [⟨delimiter, verbatim, withoutTabs⟩]) after
          | .anything =>
            let lexed := tokens fuel next .anything announced after
            let redirects := after.head? = some '<' || after.head? = some '>'
            if redirects && taken.all Text.Decimal.isDigit then
              lexed.cons (.descriptor (Text.Decimal.value taken)) line
            else lexed.cons (.word word) line

end Lexer

/-- Reads shell text into tokens. -/
def lex (text : String) : Lexer.Lexed :=
  Lexer.tokens (text.length + 1) 1 .anything [] text.toList

end StepGraph.Shell
