import StepGraph.Shell.Utility.Integers

/-! Conditions. The number of arguments decides how they are read, so that an
operand may look like an operator: up to four arguments have one reading each, and
longer lists are joined by `-a` and `-o`. -/
namespace StepGraph.Shell.Utility
open Run

/-- Why a condition has no value. -/
inductive ConditionFault
  | illegalNumber (text : String)
  | missingOperand (operator : String)
  | unexpected (operator : String)

/-- A condition on one operand. -/
def unary? (operator : String) : Option (String → Run Bool) :=
  let node (test : FileNode → Bool) (path : String) : Run Bool := do
    if path = "/dev/null" || path = "/dev/zero" then return false
    match (← files).locate path with
    | .ok (_, found) => return test found
    | .error _ => return false
  match operator with
  | "-n" => some fun text => return text ≠ ""
  | "-z" => some fun text => return text = ""
  | "-e" | "-r" | "-w" => some fun path => do
    return path = "/dev/null" || path = "/dev/zero" || (← files).exists? path
  | "-f" => some <| node fun
    | .file .. => true
    | .directory => false
  | "-d" => some <| node fun
    | .file .. => false
    | .directory => true
  | "-x" => some <| node fun
    | .file _ mode => mode.mayRun
    | .directory => true
  | "-s" => some <| node fun
    | .file content _ => 0 < content.size
    | .directory => true
  | "-c" => some fun path => return path = "/dev/null" || path = "/dev/zero"
  | "-O" | "-G" => some fun path => return (← files).exists? path
  | "-h" | "-L" | "-b" | "-p" | "-S" | "-u" | "-g" | "-k" => some fun _ => return false
  | "-t" => some fun _ => return false
  | _ => none

/-- A number in a condition. -/
def operandNumber (text : String) : Except ConditionFault Int :=
  match integer? (String.ofList (text.toList.filter (· ≠ ' '))) with
  | some number => .ok number
  | none => .error (.illegalNumber text)

/-- A condition on two operands. -/
def binary? (operator : String) : Option (String → String → Except ConditionFault Bool) :=
  let numbers (test : Int → Int → Bool) (first second : String) : Except ConditionFault Bool := do
    return test (← operandNumber first) (← operandNumber second)
  match operator with
  | "=" | "==" => some fun first second => .ok (first = second)
  | "!=" => some fun first second => .ok (first ≠ second)
  | "<" => some fun first second => .ok (first < second)
  | ">" => some fun first second => .ok (second < first)
  | "-eq" => some (numbers fun a b => a = b)
  | "-ne" => some (numbers fun a b => a ≠ b)
  | "-lt" => some (numbers fun a b => a < b)
  | "-le" => some (numbers fun a b => a ≤ b)
  | "-gt" => some (numbers fun a b => a > b)
  | "-ge" => some (numbers fun a b => a ≥ b)
  | _ => none

/-- The value of a condition, unless it has none. -/
abbrev Verdict := ExceptT ConditionFault Run

/-- A value that is known, or the reason why there is none. -/
def Verdict.known {α : Type} (value : Except ConditionFault α) : Verdict α := ExceptT.mk (pure value)

mutual

/-- Alternatives; `fuel` bounds the arguments, here and below. -/
def alternatives : (fuel : Nat) → List String → Verdict (Bool × List String)
  | 0, arguments => return (false, arguments)
  | fuel + 1, arguments => do
    let (first, rest) ← conjunction fuel arguments
    match rest with
    | "-o" :: rest =>
      let (second, rest) ← alternatives fuel rest
      return (first || second, rest)
    | rest => return (first, rest)

/-- Conditions that all have to hold. -/
def conjunction : (fuel : Nat) → List String → Verdict (Bool × List String)
  | 0, arguments => return (false, arguments)
  | fuel + 1, arguments => do
    let (first, rest) ← single fuel arguments
    match rest with
    | "-a" :: rest =>
      let (second, rest) ← conjunction fuel rest
      return (first && second, rest)
    | rest => return (first, rest)

/-- One condition. -/
def single : (fuel : Nat) → List String → Verdict (Bool × List String)
  | 0, arguments => return (false, arguments)
  | fuel + 1, arguments =>
    match arguments with
    | [] => return (false, [])
    | [first, operator] =>
      if first ≠ "!" && (unary? first).isNone && (binary? operator).isSome then
        throw (.missingOperand operator)
      else prefixed fuel first [operator]
    | first :: operator :: second :: rest =>
      match binary? operator with
      | some test => do return (← Verdict.known (test first second), rest)
      | none => prefixed fuel first (operator :: second :: rest)
    | first :: rest => prefixed fuel first rest

/-- One condition that begins with an operator or is a single operand. -/
def prefixed : (fuel : Nat) → String → List String → Verdict (Bool × List String)
  | 0, _, rest => return (false, rest)
  | fuel + 1, first, rest =>
    match first, rest with
    | "!", _ :: _ => do
      let (value, rest) ← single fuel rest
      return (!value, rest)
    | "(", _ :: _ => do
      let (value, rest) ← alternatives fuel rest
      match rest with
      | ")" :: rest => return (value, rest)
      | _ => throw (.unexpected "closing paren")
    | _, _ =>
      match unary? first, rest with
      | some test, operand :: rest => do return (← (test operand : Run Bool), rest)
      | _, rest => return (first ≠ "", rest)

end

/-- The value of a list of arguments. -/
def condition (arguments : List String) : Verdict Bool := do
  match arguments with
  | [] => return false
  | [text] => return text ≠ ""
  | arguments =>
    let (value, rest) ← alternatives (4 * arguments.length + 4) arguments
    if rest = [] then return value
    else throw (.unexpected ((arguments.take (arguments.length - rest.length)).getLastD ""))

/-- Says by its status whether a condition holds. -/
def test : Utility := fun speaker arguments => do
  match ← (condition arguments).run with
  | .ok value => return if value then 0 else 1
  | .error (.illegalNumber text) => complain speaker s!"Illegal number: {text}"; return 2
  | .error (.missingOperand operator) => complain speaker s!"{operator}: argument expected"; return 2
  | .error (.unexpected operator) => complain speaker s!"{operator}: unexpected operator"; return 2

/-- A condition whose last argument is a bracket. -/
def bracket : Utility := fun speaker arguments => do
  if arguments.getLast? = some "]" then test speaker arguments.dropLast
  else
    complain speaker "missing ]"
    return 2

end StepGraph.Shell.Utility
