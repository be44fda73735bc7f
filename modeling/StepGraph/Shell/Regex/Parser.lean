import StepGraph.Shell.Regex.Basic
import StepGraph.Shell.CharClass
import StepGraph.Text.Decimal

/-! Reading regular expressions. In a basic expression most characters stand for
themselves, and mean something behind a backslash; in an extended one it is the other
way round. Between brackets only brackets, dashes and a caret mean something. -/
namespace StepGraph.Shell

/-- Why a text is no regular expression. -/
inductive RegexError
  | unmatchedBracket
  | unmatchedParenthesis
  | strayParenthesis
  | unmatchedBrace
  | badInterval
  | tooBig
  | trailingBackslash
  | unknownReference
  | badRange
  | unknownClass
  | unknownCollation
  | nothingToRepeat
  deriving DecidableEq

/-- What is wrong, in words. -/
def RegexError.message : RegexError → String
  | .unmatchedBracket => "Unmatched [, [^, [:, [., or [="
  | .unmatchedParenthesis => "Unmatched ( or \\("
  | .strayParenthesis => "Unmatched ) or \\)"
  | .unmatchedBrace => "Unmatched \\\x7b"
  | .badInterval => "Invalid content of \\\x7b\\\x7d"
  | .tooBig => "Regular expression too big"
  | .trailingBackslash => "Trailing backslash"
  | .unknownReference => "Invalid back reference"
  | .badRange => "Invalid range end"
  | .unknownClass => "Invalid character class name"
  | .unknownCollation => "Invalid collation character"
  | .nothingToRepeat => "Invalid preceding regular expression"

/-- What is odd about a regular expression. -/
inductive RegexNote
  /-- A sign repeats nothing. -/
  | loneRepetition (sign : String)
  /-- What looks like a class stands between single brackets. -/
  | bareClass
  deriving DecidableEq

/-- What is odd, in words. -/
def RegexNote.message : RegexNote → String
  | .loneRepetition sign => s!"{sign} at start of expression"
  | .bareClass => "character class syntax is [[:space:]], not [:space:]"

/-- A way to write regular expressions. -/
structure Dialect where
  extended : Bool := false
  /-- Whether it is a mistake to repeat nothing or, in a basic expression, what is
  repeated already. -/
  strict : Bool := false
  /-- Whether the end of a range may stand before its beginning. -/
  emptyRanges : Bool := false

namespace Regex

/-- What a character or two at the beginning of a text mean. -/
inductive Token
  | char (c : Char)
  | set (set : CharSet)
  | opening
  | closing
  | alternative
  | interval (least : Nat) (most : Option Nat)
  | anchor (anchor : Anchor)
  | reference (number : Nat)

/-! ## Brackets -/

/-- What stands between brackets, first as characters. -/
inductive Element
  | char (c : Char)
  | class (ranges : List (Char × Char))

/-- Splits at two characters. -/
def splitAt2 (first second : Char) : List Char → Option (List Char × List Char)
  | a :: b :: rest =>
    if a = first && b = second then some ([], rest)
    else (splitAt2 first second (b :: rest)).map fun (inside, rest) => (a :: inside, rest)
  | _ => none

/-- An element at the beginning of a text. -/
def element (chars : List Char) : Except RegexError (Element × List Char) :=
  let named (mark : Char) (rest : List Char) (meaning : List Char → Except RegexError Element) :
      Except RegexError (Element × List Char) :=
    match splitAt2 mark ']' rest with
    | none => .error .unmatchedBracket
    | some (name, rest) => (meaning name).map (·, rest)
  let single (name : List Char) : Except RegexError Element :=
    match name with
    | [c] => .ok (.char c)
    | _ => .error .unknownCollation
  match chars with
  | '[' :: ':' :: rest =>
    named ':' rest fun name =>
      match Text.CharClass.ranges? (String.ofList name) with
      | some ranges => .ok (.class ranges)
      | none => .error .unknownClass
  | '[' :: '=' :: rest => named '=' rest single
  | '[' :: '.' :: rest => named '.' rest single
  | c :: rest => .ok (.char c, rest)
  | [] => .error .unmatchedBracket

/-- The ranges up to the bracket that closes, which may come first as one of the
characters. `fuel` bounds the characters. -/
def ranges (dialect : Dialect) :
    (fuel : Nat) → (first : Bool) → List Char → Except RegexError (List (Char × Char) × List Char)
  | 0, _, _ => .error .unmatchedBracket
  | fuel + 1, first, chars => do
    if !first && chars.head? = some ']' then return ([], chars.drop 1)
    let (start, rest) ← element chars
    let isRange := rest.head? = some '-' && (rest.drop 1).head? ≠ some ']' && rest.drop 1 ≠ []
    if isRange then
      let (stop, rest) ← element (rest.drop 1)
      match start, stop with
      | .char low, .char high =>
        if high < low && !dialect.emptyRanges then throw .badRange
        let (others, rest) ← ranges dialect fuel false rest
        return ((low, high) :: others, rest)
      | _, _ => throw .badRange
    else
      let (others, rest) ← ranges dialect fuel false rest
      match start with
      | .char c => return ((c, c) :: others, rest)
      | .class found => return (found ++ others, rest)

/-- A list in brackets, behind the bracket that opens it. -/
def bracketed (dialect : Dialect) (chars : List Char) : Except RegexError (CharSet × List Char) := do
  let (outside, chars) := match chars with
    | '^' :: rest => (true, rest)
    | chars => (false, chars)
  let (ranges, rest) ← ranges dialect (chars.length + 1) true chars
  return (⟨outside, ranges⟩, rest)

/-! ## Intervals -/

/-- No part is repeated more often than this. -/
def mostRepeats : Nat := 32767

/-- What is wrong with an interval. -/
inductive IntervalFault
  /-- It is none. -/
  | malformed (error : RegexError)
  /-- It is one, but it cannot be meant. -/
  | impossible (error : RegexError)

/-- The bounds of an interval, behind the brace that opens it. -/
def interval (extended : Bool) (chars : List Char) :
    Except IntervalFault (Nat × Option Nat × List Char) := do
  let closing := if extended then ['\x7d'] else ['\\', '\x7d']
  let (inside, rest) ← match split closing chars with
    | some found => pure found
    | none => throw (.malformed .unmatchedBrace)
  let number? (text : List Char) : Option Nat :=
    if text ≠ [] && text.all Text.Decimal.isDigit then some (Text.Decimal.value text) else none
  let (least, most) ← match number? (inside.takeWhile (· ≠ ',')), inside.dropWhile (· ≠ ',') with
    | some count, [] => pure (count, some count)
    | some least, [','] => pure (least, none)
    | none, [','] => if inside = [','] then pure (0, none) else throw (.malformed .badInterval)
    | least?, ',' :: most =>
      match number? most with
      | some most =>
        if least?.isNone && inside.head? ≠ some ',' then throw (.malformed .badInterval)
        pure (least?.getD 0, some most)
      | none => throw (.malformed .badInterval)
    | _, _ => throw (.malformed .badInterval)
  if most.any (· < least) then throw (.impossible .badInterval)
  if mostRepeats < most.getD least then throw (.impossible .tooBig)
  return (least, most, rest)
where
  split (closing : List Char) : List Char → Option (List Char × List Char)
    | [] => none
    | c :: rest =>
      if closing.isPrefixOf (c :: rest) then some ([], (c :: rest).drop closing.length)
      else (split closing rest).map fun (inside, rest) => (c :: inside, rest)

/-! ## Tokens -/

/-- The characters of words, or all others. -/
def wordChars (outside : Bool) : CharSet :=
  ⟨outside, ('_', '_') :: (Text.CharClass.ranges? "alnum").getD []⟩

/-- The characters that stand between words, or all others. -/
def spaceChars (outside : Bool) : CharSet := ⟨outside, (Text.CharClass.ranges? "space").getD []⟩

/-- What a character behind a backslash means in expressions of both kinds. -/
def escape (c : Char) : Token :=
  match c with
  | '<' => .anchor .wordStart
  | '>' => .anchor .wordEnd
  | 'b' => .anchor .wordEdge
  | 'B' => .anchor .noWordEdge
  | '\x60' => .anchor .textStart
  | '\'' => .anchor .textEnd
  | 'w' => .set (wordChars false)
  | 'W' => .set (wordChars true)
  | 's' => .set (spaceChars false)
  | 'S' => .set (spaceChars true)
  | c => if '1' ≤ c && c ≤ '9' then .reference (c.toNat - 48) else .char c

/-- What a character means that is an operator. -/
def operator (dialect : Dialect) (c : Char) (rest : List Char) :
    Except RegexError (Token × List Char) :=
  match c with
  | '(' => .ok (.opening, rest)
  | ')' => .ok (.closing, rest)
  | '|' => .ok (.alternative, rest)
  | '+' => .ok (.interval 1 none, rest)
  | '?' => .ok (.interval 0 (some 1), rest)
  | '\x7b' =>
    match interval dialect.extended rest with
    | .ok (least, most, rest) => .ok (.interval least most, rest)
    | .error (.impossible error) => .error error
    | .error (.malformed error) =>
      if dialect.extended && !dialect.strict then .ok (.char c, rest) else .error error
  | c => .ok (.char c, rest)

/-- Whether a character is an operator: by itself in an extended expression, behind a
backslash in a basic one. -/
def isOperator (c : Char) : Bool :=
  c = '(' || c = ')' || c = '|' || c = '+' || c = '?' || c = '\x7b'

/-- Takes a token off a text that has one. `atStart` says whether a caret may stand for
the start of a line in a basic expression. -/
def token (dialect : Dialect) (atStart : Bool) (c : Char) (rest : List Char) :
    Except RegexError (Token × List Char) := do
  match c with
  | '\\' =>
    match rest with
    | [] => throw .trailingBackslash
    | d :: rest =>
      if isOperator d && !dialect.extended then operator dialect d rest
      else return (escape d, rest)
  | '[' =>
    let (set, rest) ← bracketed dialect rest
    return (.set set, rest)
  | '.' => return (.set ⟨true, []⟩, rest)
  | '*' => return (.interval 0 none, rest)
  | '^' => return (if dialect.extended || atStart then .anchor .lineStart else .char c, rest)
  | '$' =>
    let ends := rest = [] || rest.take 2 = ['\\', ')'] || rest.take 2 = ['\\', '|']
    return (if dialect.extended || ends then .anchor .lineEnd else .char c, rest)
  | c => if isOperator c && dialect.extended then operator dialect c rest else return (.char c, rest)

/-! ## Expressions -/

/-- What is left to read, and what is known of the groups. -/
structure Remaining where
  chars : List Char
  /-- Whether an expression or a part of one begins here. -/
  atStart : Bool
  /-- How many groups have begun. -/
  opened : Nat
  /-- The numbers of the groups that have ended. -/
  closed : List Nat
  /-- What was odd so far. -/
  notes : List RegexNote

/-- Reads off a text. -/
abbrev Reader := ReaderT Dialect (StateT Remaining (Except RegexError))

/-- The next token, with what stands behind it. -/
def peek : Reader (Option (Token × List Char)) := do
  let left ← get
  match left.chars with
  | [] => return none
  | c :: rest => some <$> (token (← read) left.atStart c rest : Except RegexError _)

/-- Goes on behind a token. -/
def goOn (rest : List Char) (atStart : Bool) : Reader Unit :=
  modify fun left => { left with chars := rest, atStart }

/-- Takes down what is odd. -/
def note (note : RegexNote) : Reader Unit :=
  modify fun left => { left with notes := left.notes ++ [note] }

/-- Whether a list in brackets holds nothing but text between colons. -/
def isBareClass (list : List Char) : Bool :=
  let inside := (list.drop 1).dropLast
  let inside := if inside.head? = some '^' then inside.drop 1 else inside
  inside.head? = some ':' && inside.getLast? = some ':' && inside.any (· ≠ ':') &&
    !inside.contains '-' && !inside.contains '['

/-- The sign of a repetition. -/
def repetitionSign (c : Char) : String := if c = '\x7b' then "\x7b...\x7d" else c.toString

/-- The character that a token is that repeats nothing. -/
def asChar (before rest : List Char) : Char :=
  ((before.take (before.length - rest.length)).find? (· ≠ '\\')).getD '*'

/-- Repeats an expression as the tokens behind it say; `fuel` bounds their number. -/
def repetitions : (fuel : Nat) → (again : Bool) → Regex → Reader Regex
  | 0, _, inside => return inside
  | fuel + 1, again, inside => do
    let dialect ← read
    match ← peek with
    | some (.interval least most, rest) =>
      let isStar := (← get).chars.head? = some '*' || (← get).chars.take 2 = ['\\', '\x7b']
      if again && dialect.strict && !dialect.extended && isStar then throw .nothingToRepeat
      goOn rest false
      repetitions fuel true (.repeated inside least most)
    | _ => return inside

mutual

/-- Reads alternatives. `fuel` bounds the tokens, here and below; `nested` says whether a
parenthesis closes them. -/
def alternatives : (fuel : Nat) → (nested : Bool) → Reader Regex
  | 0, _ => return .empty
  | fuel + 1, nested => do
    let first ← sequence fuel nested none
    match ← peek with
    | some (.alternative, rest) =>
      goOn rest true
      return .either first (← alternatives fuel nested)
    | _ => return first

/-- Reads what stands in a row, and puts it behind what was read before. -/
def sequence : (fuel : Nat) → (nested : Bool) → (before : Option Regex) → Reader Regex
  | 0, _, before => return before.getD .empty
  | fuel + 1, nested, before => do
    let finished := before.getD .empty
    match ← peek with
    | none | some (.alternative, _) => return finished
    | some (found, rest) =>
      if nested && found matches .closing then return finished
      let next ← single fuel found rest
      sequence fuel nested (some (match before with
        | none => next
        | some before => .both before next))

/-- Reads what a token begins. -/
def single : (fuel : Nat) → Token → (rest : List Char) → Reader Regex
  | 0, _, _ => return .empty
  | fuel + 1, found, rest => do
    let dialect ← read
    let left ← get
    goOn rest false
    match found with
    | .char c => repetitions fuel false (Regex.char c)
    | .set set =>
      if isBareClass (left.chars.take (left.chars.length - rest.length)) then note .bareClass
      repetitions fuel false (Regex.one set)
    | .anchor place => return .anchor place
    | .alternative => return .empty
    | .reference number =>
      if !left.closed.contains number then throw .unknownReference
      repetitions fuel false (Regex.reference number)
    | .opening =>
      let number := left.opened + 1
      modify fun left => { left with opened := number, atStart := true }
      let inside ← alternatives fuel true
      match ← peek with
      | some (.closing, rest) =>
        goOn rest false
        modify fun left => { left with closed := number :: left.closed }
        repetitions fuel false (.group number inside)
      | _ => throw .unmatchedParenthesis
    | .closing =>
      if dialect.extended && !dialect.strict then repetitions fuel false (Regex.char ')')
      else throw .strayParenthesis
    | .interval .. =>
      if dialect.extended then
        if dialect.strict then throw .nothingToRepeat
        note (.loneRepetition (repetitionSign (left.chars.headD '*')))
        return .empty
      else if dialect.strict && left.chars.take 2 = ['\\', '\x7b'] then throw .nothingToRepeat
      else repetitions fuel false (Regex.char (asChar left.chars rest))

end

/-- Reads a regular expression, and says what is odd about it. -/
def parseNoting (dialect : Dialect) (chars : List Char) :
    Except RegexError (Regex × List RegexNote) := do
  let fuel := 4 * chars.length + 4
  let (regex, left) ← (alternatives fuel false).run dialect |>.run ⟨chars, true, 0, [], []⟩
  return (regex, left.notes)

/-- Reads a regular expression. -/
def parse (dialect : Dialect) (chars : List Char) : Except RegexError Regex :=
  (parseNoting dialect chars).map Prod.fst

end Regex
end StepGraph.Shell
