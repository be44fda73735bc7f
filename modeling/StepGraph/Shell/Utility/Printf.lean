import StepGraph.Shell.Utility.Characters
import StepGraph.Shell.Utility.Streams
import StepGraph.Shell.Floating

/-! Printing arguments. A format is used again for as long as there are arguments
left; what is missing counts as empty or as zero. The shell has a command for this, and
there is a utility of the same name; they differ in what they refuse, and in the order in
which output and complaints come. -/
namespace StepGraph.Shell.Utility
open Run

/-! ## Escapes -/

/-- Who replaces escapes. All know those of one letter and octal numbers. -/
inductive Escaper
  | shell
  | echo
  | printf
  deriving DecidableEq

/-- What escapes make of a text: bytes, and whether the output stops there. -/
structure Unescaped where
  bytes : List UInt8
  stops : Bool

/-- Bytes before others. -/
def Unescaped.prepend (bytes : List UInt8) (rest : Unescaped) : Unescaped :=
  { rest with bytes := bytes ++ rest.bytes }

/-- What an escape stands for. -/
inductive Escape
  | bytes (bytes : List UInt8)
  /-- The output stops. -/
  | stop
  /-- Digits are missing. -/
  | unfinished

/-- The value of hexadecimal digits at the beginning of a text, at most so many, if there
is one, and what stands behind them. -/
def hexadecimal? (most : Nat) (chars : List Char) : Option (Nat × List Char) :=
  let digits := (chars.take most).takeWhile fun c => (Text.Hex.value? c).isSome
  if digits = [] then none
  else (Text.Hex.number? digits).map (·, chars.drop digits.length)

/-- A character as it is printed where only bytes are known. -/
def codeText (code : Nat) : List UInt8 :=
  if code < 128 then [UInt8.ofNat code]
  else
    let digits := (Text.Hex.digits code).map Char.toUpper
    let (letter, width) := if code < 65536 then ('u', 4) else ('U', 8)
    (String.ofList ('\\' :: letter :: (List.replicate (width - digits.length) '0' ++ digits)))
      |>.toUTF8.toList

/-- The escape that a character behind a backslash begins, and what stands behind it.
`inFormat` says whether it stands in a format, where octal numbers need no zero in
front. -/
def escapeOf (escaper : Escaper) (inFormat : Bool) (c : Char) (rest : List Char) :
    Escape × List Char :=
  let plain : Escape × List Char := (.bytes ('\\'.toString ++ c.toString).toUTF8.toList, rest)
  let code (most : Nat) (exact : Bool) : Escape × List Char :=
    match hexadecimal? most rest with
    | some (value, after) =>
      if exact && after.length + most ≠ rest.length then (.unfinished, rest)
      else (.bytes (if exact then codeText value else [UInt8.ofNat value]), after)
    | none => if escaper = .printf then (.unfinished, rest) else plain
  if '0' ≤ c && c ≤ '7' then
    let (value, rest) := octal 3 0 (if c = '0' && !inFormat then rest else c :: rest)
    (.bytes [UInt8.ofNat value], rest)
  else if c = 'c' && !(inFormat && escaper = .shell) then (.stop, rest)
  else if c = 'e' then (.bytes [27], rest)
  else if c = 'x' && escaper ≠ .shell then code 2 false
  else if c = 'u' && escaper = .printf then code 4 true
  else if c = 'U' && escaper = .printf then code 8 true
  else if c = '"' && escaper = .printf then (.bytes [34], rest)
  else
    match escaped c with
    | some byte => (.bytes [UInt8.ofNat byte], rest)
    | none => plain

/-- Replaces the escapes of an argument; `fuel` bounds the characters. -/
def unescape (escaper : Escaper) : (fuel : Nat) → List Char → Unescaped
  | 0, _ => ⟨[], false⟩
  | _, [] => ⟨[], false⟩
  | fuel + 1, '\\' :: c :: rest =>
    match escapeOf escaper false c rest with
    | (.bytes bytes, rest) => (unescape escaper fuel rest).prepend bytes
    | (.stop, _) | (.unfinished, _) => ⟨[], true⟩
  | fuel + 1, c :: rest => (unescape escaper fuel rest).prepend c.toString.toUTF8.toList

/-- Prints arguments with the escapes in them replaced. -/
def echoUnescaped : Utility := fun speaker arguments => do
  let (ending, arguments) := match arguments with
    | "-n" :: rest => ("", rest)
    | all => ("\n", all)
  let text := " ".intercalate arguments ++ ending
  let result := unescape .shell (text.length + 1) text.toList
  if ← write 1 result.bytes then return 0
  complain speaker "I/O error"
  return 1

/-- Prints arguments as they are, unless the option `-e` asks for escapes. -/
def echo : Utility := fun speaker arguments => do
  let isOption (argument : String) : Bool := match argument.toList with
    | '-' :: c :: cs => (c :: cs).all fun c => c = 'n' || c = 'e' || c = 'E'
    | _ => false
  let options := String.join (arguments.takeWhile isOption)
  let text := " ".intercalate (arguments.dropWhile isOption) ++
    if options.toList.contains 'n' then "" else "\n"
  let escapes := (options.toList.filter fun c => c = 'e' || c = 'E').getLast? = some 'e'
  let bytes :=
    if escapes then (unescape .echo (text.length + 1) text.toList).bytes else text.toUTF8.toList
  if ← write 1 bytes then return 0
  complain speaker "write error: Bad file descriptor"
  return 1

/-! ## Formats -/

/-- A width or a precision. -/
inductive Measure
  | absent
  | given (count : Nat)
  /-- The next argument says it. -/
  | asked

/-- How an argument is laid out. -/
structure Layout where
  left : Bool
  zeros : Bool
  plus : Bool
  blank : Bool
  alternate : Bool
  width : Measure
  precision : Measure

/-- A directive of a format. -/
inductive Directive
  | text (bytes : List UInt8)
  | argument (layout : Layout) (kind : Char)
  | stop
  /-- Nothing can be printed from here on; the text shows where. -/
  | invalid (text : String)
  /-- The format ends within a directive. -/
  | missing (text : String)
  /-- An escape ends too early. -/
  | unfinished

/-- Reads a width or a precision. -/
def measure (otherwise : Measure) (cs : List Char) : Measure × List Char :=
  match cs with
  | '*' :: rest => (.asked, rest)
  | cs =>
    let digits := cs.takeWhile Text.Decimal.isDigit
    (if digits = [] then otherwise else .given (Text.Decimal.value digits), cs.drop digits.length)

/-- Reads the layout between the percent sign and the letter. -/
def layout (cs : List Char) : Layout × List Char :=
  let flags := cs.takeWhile fun c => "-0+ #".toList.contains c
  let (width, rest) := measure .absent (cs.drop flags.length)
  let (precision, rest) := match rest with
    | '.' :: rest => measure (.given 0) rest
    | rest => (.absent, rest)
  ({ left := flags.contains '-', zeros := flags.contains '0', plus := flags.contains '+'
     blank := flags.contains ' ', alternate := flags.contains '#', width, precision }, rest)

/-- Whether a layout goes with the letter of a directive. The utility is strict here. -/
def allows (escaper : Escaper) (layout : Layout) (kind : Char) : Bool :=
  "sdiuxXoceEfFgG".toList.contains kind &&
    (escaper ≠ .printf || !(
      (layout.alternate && "cdisu".toList.contains kind) ||
      (layout.zeros && "cs".toList.contains kind) ||
      (!(layout.precision matches .absent) && kind = 'c')))

/-- Reads a format; `fuel` bounds the characters. -/
def directives (escaper : Escaper) : (fuel : Nat) → List Char → List Directive
  | 0, _ => []
  | _, [] => []
  | fuel + 1, '%' :: '%' :: rest => .text [37] :: directives escaper fuel rest
  | fuel + 1, '%' :: rest =>
    let (layout, behind) := layout rest
    let behind :=
      if escaper = .printf then behind.dropWhile fun c => "lLhjtz".toList.contains c else behind
    let shown (after : List Char) : String :=
      String.ofList ('%' :: rest.take (rest.length - after.length))
    match behind with
    | [] => [.missing (shown [])]
    | kind :: after =>
      -- what replaces the escapes of its argument has no layout in the utility
      let bare := after.length + 1 = rest.length
      if kind = 'b' && (bare || escaper ≠ .printf) || allows escaper layout kind then
        .argument layout kind :: directives escaper fuel after
      else [.invalid (shown after)]
  | fuel + 1, '\\' :: c :: rest =>
    match escapeOf escaper true c rest with
    | (.bytes bytes, rest) => .text bytes :: directives escaper fuel rest
    | (.stop, _) => [.stop]
    | (.unfinished, _) => [.unfinished]
  | fuel + 1, c :: rest => .text c.toString.toUTF8.toList :: directives escaper fuel rest

/-! ## Numbers -/

/-- What an argument turns out to be that should be a number. -/
inductive Conversion
  | whole
  /-- More than a number stands there. -/
  | partly
  | none
  | outOfRange
  /-- More stands behind a character that is quoted. -/
  | quotedMore (rest : String)

/-- A number that an argument denotes, and how much of the argument is one. -/
structure Converted (α : Type) where
  value : α
  conversion : Conversion

/-- The byte behind a quote, if an argument begins with one. -/
def quotedByte? (text : String) : Option (Converted Nat) :=
  match text.toUTF8.toList with
  | 34 :: rest | 39 :: rest =>
    match rest with
    | [] => some ⟨0, .whole⟩
    | byte :: [] => some ⟨byte.toNat, .whole⟩
    | byte :: more => some ⟨byte.toNat, .quotedMore (Text.Utf8.lossy more)⟩
  | _ => Option.none

/-- How much of a text is a number, from what stands behind it. -/
def conversionOf (text rest : List Char) (outOfRange : Bool) : Conversion :=
  if text ≠ [] && rest.length = text.length then .none
  else if rest ≠ [] then .partly
  else if outOfRange then .outOfRange
  else .whole

/-- The whole number that an argument denotes. -/
def wholeNumber (signed : Bool) (text : String) : Converted Int :=
  match quotedByte? text with
  | some found => ⟨found.value, found.conversion⟩
  | Option.none =>
    let chars := text.toList
    let (negative, digits) := match chars.dropWhile fun c => c = ' ' || ('\t' ≤ c && c ≤ '\r') with
      | '-' :: rest => (true, rest)
      | '+' :: rest => (false, rest)
      | rest => (false, rest)
    let (magnitude, rest) : Nat × List Char := match digits with
      | '0' :: x :: rest =>
        match if x.toLower = 'x' then hexadecimal? rest.length rest else Option.none with
        | some (value, rest) => (value, rest)
        | Option.none => octal (rest.length + 2) 0 ('0' :: x :: rest)
      | rest =>
        let run := rest.takeWhile Text.Decimal.isDigit
        (Text.Decimal.value run, rest.drop run.length)
    let rest := if rest.length = digits.length then chars else rest
    let value : Int := if negative then -(magnitude : Int) else magnitude
    if signed then
      let bound : Int := (1 <<< 63 : Nat)
      let kept := max (-bound) (min value (bound - 1))
      ⟨kept, conversionOf chars rest (kept ≠ value)⟩
    else
      let most := (1 <<< 64) - 1
      if most < magnitude then ⟨most, conversionOf chars rest true⟩
      else ⟨value % (1 <<< 64 : Nat), conversionOf chars rest false⟩

/-- The number in floating point that an argument denotes. -/
def floatingNumber (kind : Text.FloatKind) (text : String) : Converted Text.Floating :=
  match quotedByte? text with
  | some found => ⟨.finite false found.value 0, found.conversion⟩
  | Option.none =>
    match Text.Floating.read? kind text.toList with
    | some reading => ⟨reading.value, conversionOf text.toList reading.rest reading.outOfRange⟩
    | Option.none => ⟨.finite false 0 0, conversionOf text.toList text.toList false⟩

/-! ## Layout -/

/-- A layout whose measures are known. -/
structure Frame where
  left : Bool
  zeros : Bool
  plus : Bool
  blank : Bool
  alternate : Bool
  width : Nat
  precision : Option Nat

/-- Bytes laid out in their width. -/
def Frame.around (frame : Frame) (bytes : List UInt8) : List UInt8 :=
  let padding := List.replicate (frame.width - bytes.length) 32
  if frame.left then bytes ++ padding else padding ++ bytes

/-- A number laid out in its width, behind its sign; zeros may fill the width. -/
def Frame.aroundNumber (frame : Frame) (sign digits : List Char) (mayFill : Bool) : List UInt8 :=
  let zeros :=
    if frame.zeros && !frame.left && mayFill then frame.width - sign.length - digits.length else 0
  frame.around (String.ofList (sign ++ List.replicate zeros '0' ++ digits)).toUTF8.toList

/-- The sign of a number. -/
def Frame.sign (frame : Frame) (negative : Bool) : List Char :=
  if negative then ['-'] else if frame.plus then ['+'] else if frame.blank then [' '] else []

/-- The digits of a number in a base. -/
def digitsIn (base : Nat) (upper : Bool) (value : Nat) : List Char :=
  (Nat.toDigits base value).map fun c => if upper then c.toUpper else c

/-- A whole number laid out in its width. -/
def Frame.whole (frame : Frame) (kind : Char) (value : Int) : List UInt8 :=
  let signed := kind = 'd' || kind = 'i'
  let digits := match kind with
    | 'x' => digitsIn 16 false value.natAbs
    | 'X' => digitsIn 16 true value.natAbs
    | 'o' => digitsIn 8 false value.natAbs
    | _ => digitsIn 10 false value.natAbs
  let digits := if frame.precision = some 0 && value = 0 then [] else digits
  let digits := List.replicate (frame.precision.getD 0 - digits.length) '0' ++ digits
  let digits := if frame.alternate && kind = 'o' && digits.head? ≠ some '0' then '0' :: digits
    else digits
  let mark := if frame.alternate && kind.toLower = 'x' && value ≠ 0 then ['0', kind] else []
  let sign := if signed then frame.sign (value < 0) else []
  frame.aroundNumber (sign ++ mark) digits frame.precision.isNone

/-- A number in floating point laid out in its width. -/
def Frame.floating (frame : Frame) (kind : Char) (value : Text.Floating) : List UInt8 :=
  let style : Text.Floating.Notation := match kind.toLower with
    | 'f' => .fixed
    | 'e' => .scientific
    | _ => .general
  let text := value.magnitude style (frame.precision.getD 6) frame.alternate
  let text := if kind.isUpper then text.map Char.toUpper else text
  frame.aroundNumber (frame.sign value.isNegative) text (value matches .finite ..)

/-! ## Printing -/

/-- Something that printing does: it writes, or it complains. -/
inductive PrintEvent
  | output (bytes : List UInt8)
  | complaint (text : String)

/-- What has been printed of a format, and the arguments that are left. -/
structure Progress where
  /-- What has been done, the latest first. -/
  events : List PrintEvent
  arguments : List String
  /-- The status, if the format is not used any further. -/
  ended : Option Nat
  /-- Whether an argument was not a number. -/
  faulty : Bool

namespace Progress

/-- Writes bytes. -/
def output (progress : Progress) (bytes : List UInt8) : Progress :=
  { progress with events := .output bytes :: progress.events }

/-- Ends with a complaint and a status. -/
def refuse (progress : Progress) (text : String) (status : Nat) : Progress :=
  { progress with events := .complaint text :: progress.events, ended := some status }

/-- Complains about an argument that is not a number. -/
def judge (progress : Progress) (escaper : Escaper) (argument : String) (conversion : Conversion) :
    Progress :=
  let (quoted, mark) := if escaper = .printf then ("'", "'") else ("", "")
  let subject := quoted ++ argument ++ mark
  let text? : Option String := match conversion, escaper with
    | .whole, _ => Option.none
    | .quotedMore rest, .printf =>
      some s!"warning: {rest}: character(s) following character constant have been ignored"
    | .quotedMore _, _ => Option.none
    | .outOfRange, _ => some s!"{subject}: Numerical result out of range"
    | .none, .printf => some s!"{subject}: expected a numeric value"
    | .none, _ => some s!"{subject}: expected numeric value"
    | .partly, .printf => some s!"{subject}: value not completely converted"
    | .partly, _ => some s!"{subject}: not completely converted"
  match text? with
  | Option.none => progress
  | some text =>
    { progress with
      events := .complaint text :: progress.events
      faulty := progress.faulty || !(conversion matches .quotedMore _) }

/-- The measure of a layout, for which an argument may be needed. -/
def measured (progress : Progress) (escaper : Escaper) : Measure → Option Int × Progress
  | .absent => (Option.none, progress)
  | .given count => (some count, progress)
  | .asked =>
    let argument := progress.arguments.headD ""
    let number := wholeNumber true argument
    (some number.value,
      { progress with arguments := progress.arguments.drop 1 }.judge escaper argument
        number.conversion)

/-- Prints an argument in a frame. -/
def addArgument (progress : Progress) (escaper : Escaper) (frame : Frame) (kind : Char) :
    Progress :=
  let argument := progress.arguments.headD ""
  let progress := { progress with arguments := progress.arguments.drop 1 }
  let cut (bytes : List UInt8) : List UInt8 := match frame.precision with
    | some precision => bytes.take precision
    | Option.none => bytes
  match kind with
  | 's' => progress.output (frame.around (cut argument.toUTF8.toList))
  | 'c' =>
    progress.output (frame.around [argument.toUTF8.toList.headD 0])
  | 'b' =>
    let result := unescape escaper (argument.length + 1) argument.toList
    let progress := progress.output (frame.around (cut result.bytes))
    if result.stops then { progress with ended := some 0 } else progress
  | kind =>
    if "diuxXo".toList.contains kind then
      let number := wholeNumber (kind = 'd' || kind = 'i') argument
      (progress.judge escaper argument number.conversion).output (frame.whole kind number.value)
    else
      let number := floatingNumber (if escaper = .printf then .extended else .double) argument
      (progress.judge escaper argument number.conversion).output (frame.floating kind number.value)

/-- Prints one directive. -/
def add (escaper : Escaper) (progress : Progress) (directive : Directive) : Progress :=
  if progress.ended.isSome then progress
  else
    match directive with
    | .text bytes => progress.output bytes
    | .stop => { progress with ended := some 0 }
    | .invalid text =>
      if escaper = .printf then progress.refuse s!"{text}: invalid conversion specification" 1
      else progress.refuse s!"{text}: invalid directive" 2
    | .missing text =>
      if escaper = .printf then progress.refuse s!"{text}: invalid conversion specification" 1
      else progress.refuse "missing format character" 2
    | .unfinished => progress.refuse "missing hexadecimal number in escape" 1
    | .argument layout kind =>
      let (width, progress) := progress.measured escaper layout.width
      let (precision, progress) := progress.measured escaper layout.precision
      let frame : Frame := {
        left := layout.left || (width.getD 0) < 0, zeros := layout.zeros, plus := layout.plus
        blank := layout.blank, alternate := layout.alternate, width := (width.getD 0).natAbs
        precision := precision.bind fun count => if count < 0 then Option.none else some count.toNat }
      progress.addArgument escaper frame kind

end Progress

/-- Uses a format for as long as arguments are left; `fuel` bounds how many there
are. -/
def formatted (escaper : Escaper) (format : List Directive) : (fuel : Nat) → Progress → Progress
  | 0, progress => progress
  | fuel + 1, progress =>
    let next := format.foldl (Progress.add escaper) progress
    if next.ended.isSome || next.arguments = [] ||
        progress.arguments.length ≤ next.arguments.length then
      next
    else formatted escaper format fuel next

/-- Prints arguments under a format. -/
def printUnder (escaper : Escaper) (speaker format : String) (arguments : List String) :
    Run Nat := do
  let format := directives escaper (format.length + 1) format.toList
  let done := formatted escaper format (arguments.length + 1) ⟨[], arguments, none, false⟩
  -- the shell keeps what it prints until it ends, or until nothing can be printed any more
  let (complaints, outputs) := done.events.reverse.partition (· matches .complaint _)
  let refused := done.ended.any (· ≠ 0)
  let events := match escaper with
    | .printf => done.events.reverse
    | _ =>
      if refused then complaints.dropLast ++ outputs ++ complaints.getLast?.toList
      else complaints ++ outputs
  let mut possible := true
  for event in events do
    match event with
    | .output bytes => possible := (← write 1 bytes) && possible
    | .complaint text => complain speaker text
  if escaper = .printf && done.ended.isNone && done.arguments ≠ [] then
    let first := done.arguments.headD ""
    complain speaker s!"warning: ignoring excess arguments, starting with '{first}'"
  if !possible then
    complain speaker (if escaper = .printf then "write error: Bad file descriptor" else "I/O error")
    return 1
  return if done.ended.any (· ≠ 0) then done.ended.getD 0 else if done.faulty then 1 else 0

/-- Prints arguments under a format, as a command of the shell. -/
def printfInShell : Utility := fun speaker arguments => do
  match arguments with
  | [] | ["--"] => complain speaker "usage: printf format [arg ...]"; return 2
  | "--" :: format :: arguments => printUnder .shell speaker format arguments
  | format :: arguments =>
    match format.toList with
    | '-' :: c :: _ => complain speaker s!"Illegal option -{c}"; return 2
    | _ => printUnder .shell speaker format arguments

/-- Prints arguments under a format. -/
def printf : Utility := fun speaker arguments => do
  let arguments := if arguments.head? = some "--" then arguments.drop 1 else arguments
  match arguments with
  | [] => misuse speaker "missing operand" 1
  | format :: arguments => printUnder .printf speaker format arguments

end StepGraph.Shell.Utility
