import StepGraph.Shell.Utility.Printf

/-! Printing numbers in order. The numbers are decimal fractions and are added up exactly;
as many digits are printed as the first number and the step have. -/
namespace StepGraph.Shell.Utility
open Run

/-- A number as it is written: so many parts of a power of ten. -/
structure Written where
  parts : Int
  /-- How many digits stand behind the point. -/
  places : Nat
  /-- How many characters it takes to write it. -/
  width : Int

namespace Written

/-- How many parts there are of a smaller size. -/
def scaled (written : Written) (places : Nat) : Int :=
  written.parts * Nat.pow 10 (places - written.places)

/-- Reads a number in decimal, perhaps with an exponent. -/
def ofText? (text : String) : Option Written := do
  let chars := text.toList.dropWhile fun c => c = '+' || c = ' '
  let (negative, digits) := match chars with
    | '-' :: rest => (true, rest)
    | rest => (false, rest)
  let (digits, behind, rest) := Text.Floating.pointed Text.Decimal.isDigit digits
  if digits = [] then failure
  let (exponent, rest) := (Text.Floating.exponent? 'e' rest).getD (0, rest)
  if rest ≠ [] then failure
  let magnitude := Text.Decimal.value digits
  let parts : Int := if negative then -(magnitude : Int) else magnitude
  let places := (behind - exponent).toNat
  let whole := max 1 ((digits.length : Int) - behind + exponent)
  let point : Int := if places = 0 then 0 else 1 + places
  return {
    parts := parts * Nat.pow 10 (exponent - behind).toNat
    places
    width := whole + point + if negative then 1 else 0 }

/-- The text of parts of a power of ten, with zeros in front up to a width. -/
def text (parts : Int) (places : Nat) (width : Nat) : List Char :=
  let sign := if parts < 0 then ['-'] else []
  let digits := Text.Floating.withPoint (Text.Decimal.digits parts.natAbs) places false
  sign ++ List.replicate (width - sign.length - digits.length) '0' ++ digits

end Written

/-- The numbers from one to another by a step that is not zero. -/
def progression (first step last : Int) : List Int :=
  let span := if 0 < step then last - first else first - last
  if span < 0 then []
  else (List.range (span.toNat / step.natAbs + 1)).map fun (index : Nat) => first + step * index

/-- How each number is printed: as it is written, or in a frame between two texts. -/
inductive NumberStyle
  | plain (width : Nat)
  | framed (before after : List UInt8) (frame : Frame) (kind : Char)

/-- The style that a format asks for, which has to have one directive. -/
def styleOf (format : String) : Except String NumberStyle := do
  let read := directives .shell (format.length + 1) (format.toList.flatMap fun c =>
    if c = '\\' then [c, c] else [c])
  let isText (directive : Directive) : Bool := directive matches .text _
  let bytes (parts : List Directive) : List UInt8 := parts.flatMap fun
    | .text bytes => bytes
    | _ => []
  match read.dropWhile isText with
  | [] => throw s!"format '{format}' has no % directive"
  | .argument layout kind :: rest =>
    if !"eEfFgG".toList.contains kind then
      throw s!"format '{format}' has unknown %{kind} directive"
    if !rest.all isText then throw s!"format '{format}' has too many % directives"
    let count? : Measure → Option Nat
      | .given count => some count
      | _ => none
    let frame : Frame := {
      left := layout.left, zeros := layout.zeros, plus := layout.plus, blank := layout.blank
      alternate := layout.alternate, width := (count? layout.width).getD 0
      precision := count? layout.precision }
    return .framed (bytes (read.takeWhile isText)) (bytes rest) frame kind
  | .missing _ :: _ => throw s!"format '{format}' ends in %"
  | .invalid text :: _ =>
    let kind := text.toList.getLastD '%'
    throw s!"format '{format}' has unknown %{kind} directive"
  | _ => throw s!"format '{format}' has no % directive"

/-- A number in a style. -/
def NumberStyle.show (style : NumberStyle) (parts : Int) (places shown : Nat) : List UInt8 :=
  match style with
  | .plain width =>
    let parts := parts / Nat.pow 10 (places - shown)
    (String.ofList (Written.text parts shown width)).toUTF8.toList
  | .framed before after frame kind =>
    let value := Text.Floating.nearest .extended (parts < 0) parts.natAbs (Nat.pow 10 places)
    before ++ frame.floating kind value ++ after

/-- Splits options off arguments; a negative number is none. -/
def numericOptions : List String → List String × List String
  | [] => ([], [])
  | argument :: rest =>
    let more : List String × List String :=
      let (options, operands) := numericOptions rest
      (argument :: options, operands)
    match argument.toList, rest with
    | ['-', c], value :: behind =>
      if c = 'f' || c = 's' then
        let (options, operands) := numericOptions behind
        (argument :: value :: options, operands)
      else if Text.Decimal.isDigit c then ([], argument :: rest)
      else more
    | '-' :: c :: _, _ =>
      if Text.Decimal.isDigit c || c = '.' then ([], argument :: rest) else more
    | _, _ => ([], argument :: rest)

/-- Prints numbers in order. -/
def seq : Utility := fun speaker arguments => do
  let (settings, numbers) := numericOptions arguments
  let grammar : Grammar := {
    flags := "w", valued := "fs", inFront := true
    long := [("equal-width", 'w'), ("format", 'f'), ("separator", 's')] }
  let body (speaker : String) (options : Options) : Run Nat := do
    let numbers := if numbers.head? = some "--" then numbers.drop 1 else numbers
    if numbers = [] then return ← misuse speaker "missing operand" 1
    if 3 < numbers.length then
      let extra := (numbers.drop 3).headD ""
      return ← misuse speaker s!"extra operand '{extra}'" 1
    match numbers.find? fun text => (Written.ofText? text).isNone with
    | some text => misuse speaker s!"invalid floating point argument: '{text}'" 1
    | none =>
      let read := numbers.filterMap Written.ofText?
      let one : Written := ⟨1, 0, 1⟩
      let last := read.getLastD one
      let first := if read.length < 2 then one else read.headD one
      let step := if read.length < 3 then one else (read[1]?).getD one
      if step.parts = 0 then
        let text := (numbers[1]?).getD ""
        return ← misuse speaker s!"invalid Zero increment value: '{text}'" 1
      let places := max last.places (max first.places step.places)
      let shown := max first.places step.places
      let written (number : Written) : Int :=
        number.width - (if number.places = 0 then 0 else 1 + number.places) +
          if shown = 0 then 0 else 1 + shown
      let width := if options.has 'w' then (max (written first) (written last)).toNat else 0
      let style : Except String NumberStyle := match options.value? 'f' with
        | some format => styleOf format
        | none => .ok (.plain width)
      match style with
      | .error message => complain speaker message; return 1
      | .ok style =>
        let separator := ((options.value? 's').getD "\n").toUTF8.toList
        let shownNumbers :=
          (progression (first.scaled places) (step.scaled places) (last.scaled places)).map
            fun parts => style.show parts places shown
        if shownNumbers ≠ [] then
          let _ ← write 1 (separator.intercalate shownNumbers ++ [10])
        return 0
  withOptions grammar 1 body speaker settings

end StepGraph.Shell.Utility
