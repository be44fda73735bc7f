import StepGraph.Shell.Lexer

/-! Arithmetic of the shell, on 64-bit integers that wrap. An expression is read
whole before it is computed; variables stand for the numbers that they hold, and
may be given new ones. -/
namespace StepGraph.Shell

/-- An operator between two numbers. -/
inductive BinaryOperator
  | multiply | divide | remainder | add | subtract | shiftLeft | shiftRight
  | less | lessEqual | greater | greaterEqual | equal | notEqual
  | bitAnd | bitXor | bitOr | both | either
  deriving DecidableEq

/-- An operator before one number. -/
inductive UnaryOperator
  | plus | negate | complement | negation
  deriving DecidableEq

/-- An arithmetic expression. -/
inductive Expression
  | number (value : Int)
  | parameter (name : String)
  | unary (operator : UnaryOperator) (operand : Expression)
  | binary (operator : BinaryOperator) (left right : Expression)
  | conditional (test yes no : Expression)
  /-- The value is given to a variable, after an operator has been applied to what
  the variable held. -/
  | assign (name : String) (operator : Option BinaryOperator) (value : Expression)

namespace Expression

/-- The operators and how they are written, from those that bind loosest; an
operator stands before those that its text begins. -/
def levels : List (List (String × BinaryOperator)) :=
  [[("||", .either)], [("&&", .both)], [("|", .bitOr)], [("^", .bitXor)], [("&", .bitAnd)],
    [("==", .equal), ("!=", .notEqual)],
    [("<=", .lessEqual), (">=", .greaterEqual), ("<", .less), (">", .greater)],
    [("<<", .shiftLeft), (">>", .shiftRight)],
    [("+", .add), ("-", .subtract)],
    [("*", .multiply), ("/", .divide), ("%", .remainder)]]

/-- The operators that may stand before an equals sign. -/
def assigning : List (String × Option BinaryOperator) :=
  [("=", none), ("*=", some .multiply), ("/=", some .divide), ("%=", some .remainder),
    ("+=", some .add), ("-=", some .subtract), ("<<=", some .shiftLeft),
    (">>=", some .shiftRight), ("&=", some .bitAnd), ("^=", some .bitXor), ("|=", some .bitOr)]

/-- The symbols, the longer ones first. -/
def symbols : List String :=
  ["<<=", ">>=", "||", "&&", "==", "!=", "<=", ">=", "<<", ">>", "*=", "/=", "%=", "+=", "-=",
    "&=", "^=", "|=", "|", "^", "&", "<", ">", "+", "-", "*", "/", "%", "~", "!", "?", ":", "=",
    "(", ")"]

/-- Part of the text of an expression. -/
inductive Lexeme
  | number (value : Int)
  | name (name : String)
  | symbol (text : String)
  deriving DecidableEq

/-- The value of digits in a base. -/
def digits (base : Nat) (text : List Char) : Option Int :=
  text.foldlM (fun (total : Nat) c =>
    let digit :=
      if Text.Decimal.isDigit c then c.toNat - 48
      else if 'a' ≤ c && c ≤ 'f' then c.toNat - 87
      else if 'A' ≤ c && c ≤ 'F' then c.toNat - 55
      else base
    if digit < base then some (total * base + digit) else none) 0 |>.map Int.ofNat

/-- The number that a text denotes: hexadecimal behind `0x`, octal behind `0`. -/
def number? (text : List Char) : Option Int :=
  match text with
  | '0' :: 'x' :: rest | '0' :: 'X' :: rest => if rest = [] then none else digits 16 rest
  | '0' :: rest => digits 8 rest
  | rest => if rest = [] then none else digits 10 rest

/-- Reads the parts of an expression; `fuel` bounds the characters. -/
def lexemes : (fuel : Nat) → List Char → Option (List Lexeme)
  | 0, _ => some []
  | _, [] => some []
  | fuel + 1, c :: rest =>
    if c = ' ' || c = '\t' || c = '\n' then lexemes fuel rest
    else if Lexer.isNameChar c then
      let text := c :: rest.takeWhile Lexer.isNameChar
      let rest := rest.dropWhile Lexer.isNameChar
      if Lexer.isNameStart c then
        (lexemes fuel rest).map (.name (String.ofList text) :: ·)
      else do
        let value ← number? text
        return .number value :: (← lexemes fuel rest)
    else do
      let symbol ← symbols.find? fun text => text.toList.isPrefixOf (c :: rest)
      return .symbol symbol :: (← lexemes fuel ((c :: rest).drop symbol.length))

mutual

/-- Reads an expression; `fuel` bounds the nesting, here and below. -/
def read : (fuel : Nat) → List Lexeme → Option (Expression × List Lexeme)
  | 0, _ => none
  | fuel + 1, lexemes =>
    let assignment? := match lexemes with
      | .name name :: .symbol text :: rest =>
        (assigning.lookup text).map fun operator => (name, operator, rest)
      | _ => none
    match assignment? with
    | some (name, operator, rest) => do
      let (value, rest) ← read fuel rest
      return (.assign name operator value, rest)
    | none => do
      let (test, rest) ← readBinary fuel levels lexemes
      match rest with
      | .symbol "?" :: rest =>
        let (yes, rest) ← read fuel rest
        match rest with
        | .symbol ":" :: rest =>
          let (no, rest) ← read fuel rest
          return (.conditional test yes no, rest)
        | _ => none
      | rest => return (test, rest)

/-- Reads operands and the operators of a level between them. -/
def readBinary : (fuel : Nat) → List (List (String × BinaryOperator)) → List Lexeme →
    Option (Expression × List Lexeme)
  | 0, _, _ => none
  | fuel + 1, [], lexemes => readOperand fuel lexemes
  | fuel + 1, level :: tighter, lexemes => do
    let (first, rest) ← readBinary fuel tighter lexemes
    readMore fuel level tighter first rest

/-- Reads on behind an operand. -/
def readMore : (fuel : Nat) → List (String × BinaryOperator) →
    List (List (String × BinaryOperator)) → Expression → List Lexeme →
    Option (Expression × List Lexeme)
  | 0, _, _, _, _ => none
  | fuel + 1, level, tighter, first, lexemes =>
    match lexemes with
    | .symbol text :: rest =>
      match level.lookup text with
      | none => some (first, lexemes)
      | some operator => do
        let (second, rest) ← readBinary fuel tighter rest
        readMore fuel level tighter (.binary operator first second) rest
    | _ => some (first, lexemes)

/-- Reads what stands between operators. -/
def readOperand : (fuel : Nat) → List Lexeme → Option (Expression × List Lexeme)
  | 0, _ => none
  | fuel + 1, lexemes =>
    match lexemes with
    | .number value :: rest => some (.number value, rest)
    | .name name :: rest => some (.parameter name, rest)
    | .symbol "(" :: rest => do
      match ← read fuel rest with
      | (inside, .symbol ")" :: rest) => return (inside, rest)
      | _ => none
    | .symbol text :: rest => do
      let operator ← match text with
        | "+" => some .plus
        | "-" => some .negate
        | "~" => some .complement
        | "!" => some .negation
        | _ => none
      let (inside, rest) ← readOperand fuel rest
      return (.unary operator inside, rest)
    | [] => none

end

/-- Reads the text of an expression; blank text counts as zero. Says what was expected
where the text goes wrong. -/
def ofText (text : String) : Except String Expression :=
  match lexemes (text.length + 1) text.toList with
  | none => .error "EOF"
  | some [] => .ok (.number 0)
  | some lexemes =>
    match read (16 * lexemes.length + 16) lexemes with
    | none => .error "primary"
    | some (expression, []) => .ok expression
    | some _ => .error "EOF"

/-- A number as one of 64 bits. -/
def wrap (value : Int) : Int := value.bmod UInt64.size

/-- The decimal text of a number. -/
def text (value : Int) : String :=
  if value < 0 then "-" ++ Text.Decimal.text value.natAbs else Text.Decimal.text value.natAbs

/-- One for true and zero for false. -/
def truth (holds : Bool) : Int := if holds then 1 else 0

/-- Both numbers as words of 64 bits, joined bit by bit. -/
def bitwise (join : BitVec 64 → BitVec 64 → BitVec 64) (left right : Int) : Int :=
  (join (BitVec.ofInt 64 left) (BitVec.ofInt 64 right)).toInt

/-- Why an expression has no value. -/
inductive Fault
  | divisionByZero
  /-- A variable holds no number. -/
  | illegalNumber (text : String)

/-- The value of an operator; nothing can be divided by zero. -/
def BinaryOperator.apply (operator : BinaryOperator) (left right : Int) : Except Fault Int :=
  match operator with
  | .multiply => .ok (wrap (left * right))
  | .divide => if right = 0 then .error .divisionByZero else .ok (wrap (left.tdiv right))
  | .remainder => if right = 0 then .error .divisionByZero else .ok (wrap (left.tmod right))
  | .add => .ok (wrap (left + right))
  | .subtract => .ok (wrap (left - right))
  | .shiftLeft => .ok (wrap (left * (1 <<< (right % 64).toNat : Nat)))
  | .shiftRight => .ok (left / (1 <<< (right % 64).toNat : Nat))
  | .less => .ok (truth (left < right))
  | .lessEqual => .ok (truth (left ≤ right))
  | .greater => .ok (truth (right < left))
  | .greaterEqual => .ok (truth (right ≤ left))
  | .equal => .ok (truth (left = right))
  | .notEqual => .ok (truth (left ≠ right))
  | .bitAnd => .ok (bitwise (· &&& ·) left right)
  | .bitXor => .ok (bitwise (· ^^^ ·) left right)
  | .bitOr => .ok (bitwise (· ||| ·) left right)
  | .both => .ok (truth (left ≠ 0 && right ≠ 0))
  | .either => .ok (truth (left ≠ 0 || right ≠ 0))

/-- The value of an operator before a number. -/
def UnaryOperator.apply (operator : UnaryOperator) (value : Int) : Int :=
  match operator with
  | .plus => value
  | .negate => wrap (-value)
  | .complement => wrap (-value - 1)
  | .negation => truth (value = 0)

/-- The number that a variable holds; one without a value counts as zero. -/
def valueOf (lookup : String → Option String) (name : String) : Except Fault Int :=
  match lookup name with
  | none => .ok 0
  | some text =>
    let (sign, rest) : Int × List Char := match text.toList.dropWhile (· = ' ') with
      | '-' :: rest => (-1, rest)
      | '+' :: rest => (1, rest)
      | rest => (1, rest)
    if rest = [] then .ok 0
    else
      match number? rest with
      | some value => .ok (wrap (sign * value))
      | none => .error (.illegalNumber text)

/-- Computes an expression. The variables are those that it has given values to,
the latest first, before those of the shell. -/
def value (lookup : String → Option String) :
    Expression → List (String × String) → Except Fault (Int × List (String × String))
  | .number constant, given => .ok (wrap constant, given)
  | .parameter name, given => do
    return (← valueOf (fun name => (given.lookup name).or (lookup name)) name, given)
  | .unary operator operand, given => do
    let (result, given) ← operand.value lookup given
    return (UnaryOperator.apply operator result, given)
  | .binary operator left right, given => do
    let (first, given) ← left.value lookup given
    if (operator = .both && first = 0) || (operator = .either && first ≠ 0) then
      return (truth (first ≠ 0), given)
    let (second, given) ← right.value lookup given
    return (← BinaryOperator.apply operator first second, given)
  | .conditional test yes no, given => do
    let (result, given) ← test.value lookup given
    if result ≠ 0 then yes.value lookup given else no.value lookup given
  | .assign name operator operand, given => do
    let (result, given) ← operand.value lookup given
    let result ← match operator with
      | none => pure result
      | some operator => do
        let held ← valueOf (fun name => (given.lookup name).or (lookup name)) name
        BinaryOperator.apply operator held result
    return (result, (name, text result) :: given)

end Expression
end StepGraph.Shell
