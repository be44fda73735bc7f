import StepGraph.Data
import StepGraph.Text.Decimal
import StepGraph.Text.FloatRange
import StepGraph.Text.Hex

/-! Scalars of TOML that are written without quotation marks: truth values,
integers in four bases, floating-point numbers, dates and times. Underscores may
separate digits. An integer has a value up to sixty-four bits; up to a hundred
and twenty-eight bits it can be skipped but not held, and beyond that, as beyond
the range of floating point, it can only be left unread. -/
namespace StepGraph.Toml

open Text (Decimal.isDigit)

/-- The digits of a run in which underscores stand between digits only. -/
def separated? (isDigit : Char → Bool) : List Char → Option (List Char)
  | [] => none
  | [c] => if isDigit c then some [c] else none
  | c :: '_' :: next :: rest =>
    if isDigit c && isDigit next then (separated? isDigit (next :: rest)).map (c :: ·) else none
  | c :: rest => if isDigit c then (separated? isDigit rest).map (c :: ·) else none

/-- A number in one of the bases that have a mark of their own. -/
def basedNumber? (base : Nat) (isDigit : Char → Bool) (cs : List Char) : Option Nat :=
  (separated? isDigit cs).map fun digits =>
    digits.foldl (fun total c => total * base + (Text.Hex.value? c).getD 0) 0

/-- An integer as data. -/
def integerData (negative : Bool) (magnitude : Nat) : Data :=
  if negative && magnitude ≠ 0 then
    if magnitude ≤ 1 <<< 63 then .other
    else if magnitude ≤ 1 <<< 127 then .unreadable
    else .impassable
  else if magnitude < Data.wordBound then .natural magnitude
  else if magnitude < 1 <<< 128 then .unreadable
  else .impassable

/-- The sign of a number, if it has one, and the rest. -/
def signed : List Char → Bool × List Char
  | '-' :: rest => (true, rest)
  | '+' :: rest => (false, rest)
  | cs => (false, cs)

/-- Digits without a leading zero, unless zero is all there is. -/
def plainDigits? (cs : List Char) : Option (List Char) := do
  match ← separated? Decimal.isDigit cs with
  | ['0'] => some ['0']
  | '0' :: _ => none
  | digits => some digits

/-- Whether a character goes on in the whole part of a number. -/
def isWholePart (c : Char) : Bool := Decimal.isDigit c || c == '_'

/-- An unsigned decimal number, with a fraction and an exponent if it has them. -/
def decimal? (negative : Bool) (cs : List Char) : Option Data := do
  let whole ← plainDigits? (cs.takeWhile isWholePart)
  let (fraction, afterFraction) ←
    match cs.dropWhile isWholePart with
    | '.' :: rest => do
      let digits ← separated? Decimal.isDigit (rest.takeWhile isWholePart)
      some (some digits, rest.dropWhile isWholePart)
    | rest => some (none, rest)
  let exponent ←
    match afterFraction with
    | [] => some none
    | mark :: rest =>
      if mark = 'e' ∨ mark = 'E' then do
        let (down, digits) := signed rest
        let magnitude : Int := Text.Decimal.value (← separated? Decimal.isDigit digits)
        some (some (if down then -magnitude else magnitude))
      else none
  if fraction.isNone && exponent.isNone then
    some (integerData negative (Text.Decimal.value whole))
  else
    let written := whole ++ fraction.getD []
    let shift := exponent.getD 0 - (fraction.getD []).length
    let inRange := Text.inFloatRange (Text.Decimal.value written) written.length shift
    some (if inRange then .other else .impassable)

/-- A number. -/
def number? (cs : List Char) : Option Data :=
  match cs with
  | '0' :: 'x' :: rest =>
    (basedNumber? 16 (fun c => (Text.Hex.value? c).isSome) rest).map (integerData false)
  | '0' :: 'o' :: rest =>
    (basedNumber? 8 (fun c => '0' ≤ c && c ≤ '7') rest).map (integerData false)
  | '0' :: 'b' :: rest =>
    (basedNumber? 2 (fun c => c == '0' || c == '1') rest).map (integerData false)
  | _ =>
    let (negative, unsigned) := signed cs
    if unsigned = ['i', 'n', 'f'] ∨ unsigned = ['n', 'a', 'n'] then some .other
    else decimal? negative unsigned

/-! ## Dates and times -/

/-- The number that `count` digits denote, and the rest. -/
def fixedDigits? (count : Nat) (cs : List Char) : Option (Nat × List Char) :=
  let digits := cs.take count
  if digits.length = count && digits.all Decimal.isDigit then
    some (Text.Decimal.value digits, cs.drop count)
  else none

/-- The number of days of a month. -/
def daysInMonth (year month : Nat) : Nat :=
  if month = 2 then
    if year % 4 = 0 ∧ (year % 100 ≠ 0 ∨ year % 400 = 0) then 29 else 28
  else if month = 4 ∨ month = 6 ∨ month = 9 ∨ month = 11 then 30
  else 31

/-- The length of a date at the beginning of a text. -/
def date? (cs : List Char) : Option (List Char) := do
  let (year, rest) ← fixedDigits? 4 cs
  match rest with
  | '-' :: rest =>
    let (month, rest) ← fixedDigits? 2 rest
    match rest with
    | '-' :: rest =>
      let (day, rest) ← fixedDigits? 2 rest
      if 1 ≤ month ∧ month ≤ 12 ∧ 1 ≤ day ∧ day ≤ daysInMonth year month then some rest else none
    | _ => none
  | _ => none

/-- Hours and minutes at the beginning of a text, and what follows. -/
def hoursAndMinutes? (cs : List Char) : Option (List Char) := do
  let (hour, rest) ← fixedDigits? 2 cs
  match rest with
  | ':' :: rest =>
    let (minute, rest) ← fixedDigits? 2 rest
    if hour ≤ 23 ∧ minute ≤ 59 then some rest else none
  | _ => none

/-- A fraction of a second in at most nine digits, without closing zeros. -/
def secondFraction (digits : List Char) : List Char :=
  let kept := ((digits.take 9).reverse.dropWhile (· == '0')).reverse
  if kept.isEmpty then [] else '.' :: kept

/-- A time at the beginning of a text, spelled out, and what follows. Seconds
may be left out. -/
def time? (cs : List Char) : Option (List Char × List Char) := do
  let afterMinutes ← hoursAndMinutes? cs
  match afterMinutes with
  | ':' :: rest =>
    let (second, rest) ← fixedDigits? 2 rest
    if 60 < second then none
    else
      let whole := cs.take 8
      match rest with
      | '.' :: rest =>
        let digits := rest.takeWhile Decimal.isDigit
        if digits.isEmpty then none
        else some (whole ++ secondFraction digits, rest.dropWhile Decimal.isDigit)
      | rest => some (whole, rest)
  | rest => some (cs.take 5 ++ [':', '0', '0'], rest)

/-- The distance from universal time, spelled out, which has to end the text. A
distance of zero is written with a plus sign. -/
def offset? : List Char → Option (List Char)
  | [] => some []
  | [c] => if c = 'Z' ∨ c = 'z' then some ['Z'] else none
  | sign :: rest =>
    if sign = '+' ∨ sign = '-' then
      match hoursAndMinutes? rest with
      | some [] => some ((if rest = ['0', '0', ':', '0', '0'] then '+' else sign) :: rest)
      | _ => none
    else none

/-- A date, a time, or both, spelled out. -/
def datetime? (cs : List Char) : Option (List Char) :=
  match date? cs with
  | some [] => some cs
  | some (separator :: rest) =>
    if separator = 'T' ∨ separator = 't' ∨ separator = ' ' then do
      let (time, rest) ← time? rest
      let offset ← offset? rest
      some (cs.take 10 ++ 'T' :: time ++ offset)
    else none
  | none => do
    let (time, rest) ← time? cs
    if rest.isEmpty then some time else none

/-- The name under which a date or time shows up as data. -/
def datetimeField : String := "$__toml_private_datetime"

/-- A scalar. -/
def scalar? (cs : List Char) : Option Data :=
  if cs = ['t', 'r', 'u', 'e'] then some (.bool true)
  else if cs = ['f', 'a', 'l', 's', 'e'] then some (.bool false)
  else
    match datetime? cs with
    | some spelled => some (.record [(datetimeField, .text (String.ofList spelled))])
    | none => number? cs

end StepGraph.Toml
