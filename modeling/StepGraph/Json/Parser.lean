import StepGraph.Data
import StepGraph.Text.Decimal
import StepGraph.Text.FloatRange
import StepGraph.Text.Hex

/-! Reading JSON texts, strictly by RFC 8259: no byte-order mark, no comments, no
trailing commas, no raw control characters and nothing after the value. A text
that breaks the grammar anywhere has no value. Well-formed parts whose value
cannot be held become `Data.unreadable`: numbers beyond the range of floating
point, escapes that are half a character, and nesting `nestingLimit` deep. -/
namespace StepGraph.Json

/-- The blanks of the grammar. -/
def isBlank (c : Char) : Bool := c == ' ' || c == '\n' || c == '\t' || c == '\r'

/-- What follows the blanks. -/
def skipBlanks (cs : List Char) : List Char := cs.dropWhile isBlank

/-- Lists and records nested this deep are grammatical but cannot be held. -/
def nestingLimit : Nat := 128

/-! ## Texts -/

/-- The character that a one-letter escape stands for. -/
def escaped? : Char → Option Char
  | '"' => some '"'
  | '\\' => some '\\'
  | '/' => some '/'
  | 'b' => some '\x08'
  | 'f' => some '\x0c'
  | 'n' => some '\n'
  | 'r' => some '\r'
  | 't' => some '\t'
  | _ => none

/-- What the characters of a text amount to so far. -/
inductive Spelling
  /-- The characters read, in reverse. -/
  | characters (reversed : List Char)
  /-- The characters read, in reverse, and the first half of a pair. -/
  | halfPair (reversed : List Char) (high : Nat)
  /-- Half of a pair stood alone, so the text spells nothing. -/
  | broken

/-- Adds a whole character. -/
def Spelling.add : Spelling → Char → Spelling
  | .characters reversed, c => .characters (c :: reversed)
  | .halfPair .., _ => .broken
  | .broken, _ => .broken

/-- Adds a sixteen-bit unit, which may be half of a pair. -/
def Spelling.addUnit : Spelling → Nat → Spelling
  | .characters reversed, unit =>
    if 0xD800 ≤ unit ∧ unit < 0xDC00 then .halfPair reversed unit
    else if 0xDC00 ≤ unit ∧ unit < 0xE000 then .broken
    else .characters (Char.ofNat unit :: reversed)
  | .halfPair reversed high, unit =>
    if 0xDC00 ≤ unit ∧ unit < 0xE000 then
      .characters (Char.ofNat (0x10000 + (high - 0xD800) * 0x400 + (unit - 0xDC00)) :: reversed)
    else .broken
  | .broken, _ => .broken

/-- The text spelled, if it is one. -/
def Spelling.text? : Spelling → Option String
  | .characters reversed => some (String.ofList reversed.reverse)
  | .halfPair .. => none
  | .broken => none

/-- Reads on inside quotation marks, up to and over the closing one. -/
def textBody? (spelling : Spelling) : List Char → Option (Option String × List Char)
  | '"' :: rest => some (spelling.text?, rest)
  | '\\' :: 'u' :: a :: b :: c :: d :: rest =>
    match Text.Hex.number? [a, b, c, d] with
    | some unit => textBody? (spelling.addUnit unit) rest
    | none => none
  | '\\' :: c :: rest =>
    match escaped? c with
    | some character => textBody? (spelling.add character) rest
    | none => none
  | c :: rest => if c.toNat < 0x20 ∨ c = '\\' then none else textBody? (spelling.add c) rest
  | [] => none

/-! ## Numbers -/

/-- A run of digits, which may be empty, and what follows it. -/
def digits (cs : List Char) : List Char × List Char :=
  (cs.takeWhile Text.Decimal.isDigit, cs.dropWhile Text.Decimal.isDigit)

/-- The digits before the point: one zero, or digits that start with another. -/
def whole? (cs : List Char) : Option (List Char × List Char) :=
  match digits cs with
  | ([], _) => none
  | (['0'], rest) => some (['0'], rest)
  | ('0' :: _, _) => none
  | found => some found

/-- The digits behind the point, if there is a point. -/
def fraction? : List Char → Option (Option (List Char) × List Char)
  | '.' :: rest =>
    match digits rest with
    | ([], _) => none
    | (found, rest) => some (some found, rest)
  | cs => some (none, cs)

/-- An exponent, if there is one. -/
def exponent? : List Char → Option (Option Int × List Char)
  | c :: rest =>
    if c = 'e' ∨ c = 'E' then
      let signed : Bool × List Char :=
        match rest with
        | '-' :: after => (true, after)
        | '+' :: after => (false, after)
        | _ => (false, rest)
      match digits signed.2 with
      | ([], _) => none
      | (found, rest) =>
        let magnitude : Int := Text.Decimal.value found
        some (some (if signed.1 then -magnitude else magnitude), rest)
    else some (none, c :: rest)
  | [] => some (none, [])

/-- Adds digits to a significand for as long as it stays below `Data.wordBound`,
and gives the digits left. -/
def addDigits : (significand : Nat) → List Char → Nat × List Char
  | significand, [] => (significand, [])
  | significand, c :: rest =>
    let next := significand * 10 + (Text.Decimal.digitValue? c).getD 0
    if next < Data.wordBound then addDigits next rest else (significand, c :: rest)

/-- The value of a number from its parts. The significand takes the digits that
fit into a word: each digit before the point that is left counts one power of ten,
and each one behind it is dropped. -/
def numberValue (negative : Bool) (whole : List Char) (fraction : Option (List Char))
    (exponent : Option Int) : Data :=
  let (start, beyond) := addDigits 0 whole
  let behind := fraction.getD []
  let (significand, dropped) := addDigits start behind
  let shift : Int := exponent.getD 0 + beyond.length - (behind.length - dropped.length : Nat)
  if !Text.isProductInFloatRange significand shift then .unreadable
  else if negative || fraction.isSome || exponent.isSome then .other
  else .natural (Text.Decimal.value whole)

/-- A number and what follows it. -/
def number? (cs : List Char) : Option (Data × List Char) :=
  let signed : Bool × List Char :=
    match cs with
    | '-' :: rest => (true, rest)
    | _ => (false, cs)
  match whole? signed.2 with
  | none => none
  | some (whole, rest) =>
    match fraction? rest with
    | none => none
    | some (fraction, rest) =>
      match exponent? rest with
      | none => none
      | some (exponent, rest) => some (numberValue signed.1 whole fraction exponent, rest)

/-! ## Values -/

/-- A list, unless it is nested too deep or holds what cannot be held itself. -/
def listValue (depth : Nat) (items : List Data) : Data :=
  if depth < nestingLimit then .list items else .unreadable

/-- A record, unless it is nested too deep or one of its names spells nothing. -/
def recordValue (depth : Nat) (fields : List (Option String × Data)) : Data :=
  if depth < nestingLimit then
    match fields.mapM fun field => field.1.map (·, field.2) with
    | some fields => .record fields
    | none => .unreadable
  else .unreadable

mutual

/-- A value and what follows it. `depth` counts the lists and records around
the value, this one included; `fuel` bounds the calls still to come. -/
def value? (depth : Nat) : (fuel : Nat) → List Char → Option (Data × List Char)
  | 0, _ => none
  | fuel + 1, cs =>
    match skipBlanks cs with
    | 'n' :: 'u' :: 'l' :: 'l' :: rest => some (.null, rest)
    | 't' :: 'r' :: 'u' :: 'e' :: rest => some (.bool true, rest)
    | 'f' :: 'a' :: 'l' :: 's' :: 'e' :: rest => some (.bool false, rest)
    | '"' :: rest =>
      match textBody? (.characters []) rest with
      | some (some text, rest) => some (.text text, rest)
      | some (none, rest) => some (.unreadable, rest)
      | none => none
    | '[' :: rest =>
      match skipBlanks rest with
      | ']' :: rest => some (listValue depth [], rest)
      | rest =>
        match items? (depth + 1) fuel rest with
        | some (items, rest) => some (listValue depth items, rest)
        | none => none
    | '{' :: rest =>
      match skipBlanks rest with
      | '}' :: rest => some (recordValue depth [], rest)
      | rest =>
        match fieldList? (depth + 1) fuel rest with
        | some (fields, rest) => some (recordValue depth fields, rest)
        | none => none
    | rest => number? rest

/-- The items of a list from one of them on, over the closing bracket. -/
def items? (depth : Nat) : (fuel : Nat) → List Char → Option (List Data × List Char)
  | 0, _ => none
  | fuel + 1, cs =>
    match value? depth fuel cs with
    | none => none
    | some (item, rest) =>
      match skipBlanks rest with
      | ']' :: rest => some ([item], rest)
      | ',' :: rest =>
        match items? depth fuel rest with
        | some (items, rest) => some (item :: items, rest)
        | none => none
      | _ => none

/-- The fields of a record from one of them on, over the closing brace. -/
def fieldList? (depth : Nat) :
    (fuel : Nat) → List Char → Option (List (Option String × Data) × List Char)
  | 0, _ => none
  | fuel + 1, cs =>
    match skipBlanks cs with
    | '"' :: rest =>
      match textBody? (.characters []) rest with
      | none => none
      | some (name, rest) =>
        match skipBlanks rest with
        | ':' :: rest =>
          match value? depth fuel rest with
          | none => none
          | some (value, rest) =>
            match skipBlanks rest with
            | '}' :: rest => some ([(name, value)], rest)
            | ',' :: rest =>
              match fieldList? depth fuel rest with
              | some (fields, rest) => some ((name, value) :: fields, rest)
              | none => none
            | _ => none
        | _ => none
    | _ => none

end

/-- The value of a JSON text; nothing if the text is not one. -/
def parse? (text : String) : Option Data :=
  let cs := text.toList
  match value? 1 (cs.length + 1) cs with
  | some (value, rest) => if (skipBlanks rest).isEmpty then some value else none
  | none => none

end StepGraph.Json
