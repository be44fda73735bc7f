import StepGraph.Shell.Regex.Parser
import StepGraph.Shell.Utility.Integers
import StepGraph.Shell.Utility.Order
import StepGraph.Shell.Octet

/-! Evaluating expressions whose parts are arguments. Values are texts; those that look like
numbers can be reckoned with. -/
namespace StepGraph.Shell.Utility
open Run

namespace Reckoning

/-- Why there is no value. -/
inductive Fault
  | missingArgument (before : String)
  | unexpectedArgument (argument : String)
  | unclosed (before : String)
  | notClosed (argument : String)
  | unexpectedClosing
  | noInteger
  | divisionByZero
  | regex (message : String)

/-- What is wrong, in words. -/
def Fault.message : Fault → String
  | .missingArgument before => s!"syntax error: missing argument after '{before}'"
  | .unexpectedArgument argument => s!"syntax error: unexpected argument '{argument}'"
  | .unclosed before => s!"syntax error: expecting ')' after '{before}'"
  | .notClosed argument => s!"syntax error: expecting ')' instead of '{argument}'"
  | .unexpectedClosing => "syntax error: unexpected ')'"
  | .noInteger => "non-integer argument"
  | .divisionByZero => "division by zero"
  | .regex message => message

/-- The argument that was read last, and those that are left. -/
structure Remaining where
  before : String
  rest : List String

/-- Reads arguments. -/
abbrev Reader := StateT Remaining (Except Fault)

/-- Takes the next argument. -/
def take : Reader String := do
  let left ← get
  match left.rest with
  | [] => throw (.missingArgument left.before)
  | argument :: rest =>
    set (Remaining.mk argument rest)
    return argument

/-- Takes the next argument if it is one of some. -/
def take? (wanted : List String) : Reader (Option String) := do
  match (← get).rest with
  | argument :: _ => if wanted.contains argument then some <$> take else return none
  | [] => return none

/-- The number that a value looks like. -/
def integer? (value : String) : Option Int :=
  let (negative, digits) := match value.toList with
    | '-' :: rest => (true, rest)
    | rest => (false, rest)
  if digits ≠ [] && digits.all Text.Decimal.isDigit then
    let number : Int := Text.Decimal.value digits
    some (if negative then -number else number)
  else none

/-- Whether a value counts as false. -/
def isNull (value : String) : Bool :=
  value = "" || (integer? value = some 0)

def ofBool (value : Bool) : String := if value then "1" else "0"

def ofNat (value : Nat) : String := Text.Decimal.text value

/-- What a regular expression matches at the beginning of a text: what its group holds, or
how long the match is. -/
def matched (text pattern : String) : Except Fault String :=
  let dialect : Dialect := { emptyRanges := true }
  match Regex.parse dialect (Text.Octet.ofText pattern) with
  | .error error => .error (.regex error.message)
  | .ok regex =>
    let subject := regex.subject {} (Text.Octet.ofText text)
    let hasGroup : Bool := 0 < regex.groupCount
    match regex.matchAt? subject 0 with
    | none => .ok (if hasGroup then "" else "0")
    | some found =>
      if hasGroup then .ok (Text.Utf8.lossy (Text.Octet.toBytes (found.group subject 1)))
      else .ok (ofNat found.stop)

/-- Part of a text, by the place where it begins and by its length. -/
def part (text place length : String) : String :=
  match integer? place, integer? length with
  | some (.ofNat (place + 1)), some (.ofNat length) =>
    Text.Utf8.lossy ((text.toUTF8.toList.drop place).take length)
  | _, _ => ""

/-- The place of the first of some characters in a text, or zero. -/
def placeOf (text characters : String) : Nat :=
  match text.toUTF8.toList.findIdx? (characters.toUTF8.toList.contains ·) with
  | some index => index + 1
  | none => 0

/-- Whether two values stand in an order: that of numbers, if both look like numbers. -/
def compares (operator first second : String) : Bool :=
  let order : Ordering := match integer? first, integer? second with
    | some first, some second => compare first second
    | _, _ =>
      let (first, second) := (first.toUTF8.toList, second.toUTF8.toList)
      if bytesBefore second first then (if first = second then .eq else .gt) else .lt
  match operator with
  | "<" => order = .lt
  | "<=" => order ≠ .gt
  | "=" | "==" => order = .eq
  | "!=" => order ≠ .eq
  | ">=" => order ≠ .lt
  | _ => order = .gt

/-- What an operator makes of two values. -/
def apply (operator first second : String) : Except Fault String := do
  match operator with
  | "|" => return if !isNull first then first else if !isNull second then second else "0"
  | "&" => return if isNull first || isNull second then "0" else first
  | ":" => matched first second
  | "+" | "-" | "*" | "/" | "%" =>
    match integer? first, integer? second with
    | some first, some second =>
      match operator with
      | "+" => return integerText (first + second)
      | "-" => return integerText (first - second)
      | "*" => return integerText (first * second)
      | _ =>
        if second = 0 then throw .divisionByZero
        return integerText (if operator = "/" then first.tdiv second else first.tmod second)
    | _, _ => throw .noInteger
  | operator => return ofBool (compares operator first second)

/-- The operators, those that bind least first. -/
def operators : List (List String) :=
  [["|"], ["&"], ["<", "<=", "=", "==", "!=", ">=", ">"], ["+", "-"], ["*", "/", "%"], [":"]]

mutual

/-- Reads an expression of operators that bind at least so much. `fuel` bounds the
arguments, here and below; where `counts` does not hold, the value does not matter. -/
def expression : (fuel : Nat) → (level : Nat) → (counts : Bool) → Reader String
  | 0, _, _ => return ""
  | fuel + 1, level, counts => do
    match operators[level]? with
    | none => term fuel counts
    | some wanted =>
      let first ← expression fuel (level + 1) counts
      following fuel level wanted counts first

/-- Reads what operators of a level join to a value. -/
def following : (fuel : Nat) → (level : Nat) → List String → (counts : Bool) → (first : String) →
    Reader String
  | 0, _, _, _, first => return first
  | fuel + 1, level, wanted, counts, first => do
    match ← take? wanted with
    | none => return first
    | some operator =>
      let matters := match operator with
        | "|" => isNull first
        | "&" => !isNull first
        | _ => true
      let second ← expression fuel (level + 1) (counts && matters)
      let value ← if counts && matters then apply operator first second
        else if operator = "&" then pure "0"
        else pure first
      following fuel level wanted counts value

/-- Reads a value that is no operator's. -/
def term : (fuel : Nat) → (counts : Bool) → Reader String
  | 0, _ => return ""
  | fuel + 1, counts => do
    match ← take with
    | "+" => take
    | "length" => return ofNat (← term fuel counts).utf8ByteSize
    | "match" =>
      let text ← term fuel counts
      let pattern ← term fuel counts
      if counts then matched text pattern else return ""
    | "index" =>
      let text ← term fuel counts
      return ofNat (placeOf text (← term fuel counts))
    | "substr" =>
      let text ← term fuel counts
      let place ← term fuel counts
      return part text place (← term fuel counts)
    | "(" =>
      let value ← expression fuel 0 counts
      let left ← get
      match left.rest with
      | [] => throw (.unclosed left.before)
      | ")" :: _ =>
        let _ ← take
        return value
      | other :: _ => throw (.notClosed other)
    | ")" => throw .unexpectedClosing
    | argument => return argument

end

/-- The value of an expression. -/
def valueOf (arguments : List String) : Except Fault String := do
  let fuel := 16 * arguments.length + 16
  let (value, left) ← (expression fuel 0 true).run ⟨"", arguments⟩
  match left.rest with
  | [] => return value
  | argument :: _ => throw (.unexpectedArgument argument)

end Reckoning

/-- Prints the value of an expression. -/
def expr : Utility := fun speaker arguments => do
  match if arguments.head? = some "--" then arguments.drop 1 else arguments with
  | [] => misuse speaker "missing operand" 2
  | arguments =>
    match Reckoning.valueOf arguments with
    | .error fault => complain speaker fault.message; return 2
    | .ok value =>
      let _ ← print (value ++ "\n")
      return if Reckoning.isNull value then 1 else 0

end StepGraph.Shell.Utility
