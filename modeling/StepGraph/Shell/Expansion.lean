import StepGraph.Shell.Arithmetic
import StepGraph.Shell.Machine
import StepGraph.Shell.Parser
import StepGraph.Shell.Pattern

/-! What words stand for. The pieces of a word are expanded one by one; what was
not quoted is then split into fields, and fields that are patterns are replaced by
the names of files that they match. -/
namespace StepGraph.Shell
open Run

namespace Expansion

/-- Part of an expanded word. -/
inductive Bit
  /-- Glyphs that stay together. -/
  | kept (glyphs : List Glyph)
  /-- Text that is split into fields. -/
  | loose (text : String)
  /-- A field ends and another begins. -/
  | boundary

def glyphs (text : String) (quoted : Bool) : List Glyph := text.toList.map (⟨·, quoted⟩)

/-- A text as part of a word. -/
def bitOf (quoted : Bool) (text : String) : Bit :=
  if quoted then .kept (glyphs text true) else .loose text

/-- The characters at which fields are split. -/
def separators : Run String := do return (← valueOf? "IFS").getD " \t\n"

/-- The letters of the options, in the order in which those that are on are shown. -/
def optionOrder : List Char := "ubaCEVvxsnmiIfe".toList

/-- The value of a parameter, if it has one. -/
def parameter? (name : String) : Run (Option String) := do
  let process ← process
  match name with
  | "#" => return some (Text.Decimal.text process.parameters.length)
  | "?" => return some (Text.Decimal.text process.status)
  | "$" => return some (Text.Decimal.text process.number)
  | "!" => return process.latest.map Text.Decimal.text
  | "-" => return some (String.ofList (optionOrder.filter process.has))
  | "@" | "*" =>
    let join := ((← separators).toList.head?.map Char.toString).getD ""
    return if process.parameters = [] then none else some (join.intercalate process.parameters)
  | name =>
    if name.toList.all Text.Decimal.isDigit then
      match Text.Decimal.value name.toList with
      | 0 => return some process.name
      | index + 1 => return process.parameters[index]?
    else valueOf? name

/-- Complains in the name of the shell. -/
def grumble (text : String) : Run Unit := do
  let process ← process
  complain s!"{process.name}: {Text.Decimal.text process.line}" text

/-- Gives up with a complaint. -/
def giveUp {α : Type} (text : String) : Run α := do
  grumble text
  exitWith 2

/-- Gives a variable a value, unless its value stays as it is; then the shell gives
up. -/
def assign (name value : String) : Run Unit := do
  if ← isFixed name then giveUp s!"{name}: is read only"
  setVariable name value
  if name = "OPTIND" then
    match number? value with
    | some next => changeProcess fun process => { process with place := ⟨next, none⟩ }
    | none => giveUp s!"Illegal number: {value}"
where
  number? (text : String) : Option Nat :=
    let cs := text.toList
    if cs ≠ [] && cs.all Text.Decimal.isDigit then some (Text.Decimal.value cs) else none

/-- What is printed, without the ends of lines at its end. -/
def substitute (run : Run Unit) : Run String := do
  let index ← openChannel (.output [] [])
  inProcess do
    setDescriptor 1 index
    run
  let status := (← process).status
  changeProcess fun process => { process with substituted := some status }
  match (← machine).channels[index]? with
  | some (.output chunks []) =>
    let bytes := (inOrder chunks).flatten.filter (· ≠ 0)
    let text := (Text.Utf8.lossy bytes).toList
    return String.ofList (text.reverse.dropWhile (· = '\n')).reverse
  | _ => hang

/-- The parts that the parameters are in a word. -/
def allParameters (name : String) (quoted : Bool) : Run (List Bit) := do
  let parameters := (← process).parameters
  if name = "*" && quoted then
    let join := ((← separators).toList.head?.map Char.toString).getD ""
    return [.kept (glyphs (join.intercalate parameters) true)]
  else return (parameters.map (bitOf quoted)).intersperse .boundary

/-- The text of bits that are not split. -/
def textOf (bits : List Bit) : List Glyph :=
  bits.flatMap fun
    | .kept glyphs => glyphs
    | .loose text => glyphs text false
    | .boundary => [⟨' ', true⟩]

/-- The value of an arithmetic expression; variables are given new values. -/
def compute (text : String) : Run String := do
  match Expression.ofText text with
  | .error expected => giveUp s!"arithmetic expression: expecting {expected}: \"{text}\""
  | .ok expression =>
    let held := (← process).bindings
    let lookup (name : String) : Option String := (held.lookup name).bind Variable.value
    match expression.value lookup [] with
    | .error .divisionByZero => giveUp s!"arithmetic expression: division by zero: \"{text}\""
    | .error (.illegalNumber number) => giveUp s!"Illegal number: {number}"
    | .ok (value, given) =>
      for (name, text) in given.reverse do
        assign name text
      return Expression.text value

mutual

/-- Expands the pieces of a word; plain text is split if `loosely`. `fuel` bounds
the nesting, here and below. -/
def expand (execute : String → Run String) :
    (fuel : Nat) → (loosely : Bool) → Word → Run (List Bit)
  | 0, _, _ => return []
  | _, _, [] => return []
  | fuel + 1, loosely, piece :: rest => do
    let first ← expandPiece execute fuel loosely piece
    return first ++ (← expand execute fuel loosely rest)

/-- Expands a piece. -/
def expandPiece (execute : String → Run String) :
    (fuel : Nat) → (loosely : Bool) → Piece → Run (List Bit)
  | 0, _, _ => return []
  | fuel + 1, loosely, piece => do
    match piece with
    | .plain text => return [if loosely then .loose text else .kept (glyphs text false)]
    | .quoted text => return [.kept (glyphs text true)]
    | .arithmetic expression quoted =>
      let text := Glyph.text (textOf (← expand execute fuel false expression))
      return [bitOf quoted (← compute text)]
    | .output source quoted => return [bitOf quoted (← execute source)]
    | .parameter name use quoted => expandParameter execute fuel name use quoted

/-- Expands a parameter. -/
def expandParameter (execute : String → Run String) :
    (fuel : Nat) → String → Use → (quoted : Bool) → Run (List Bit)
  | 0, _, _, _ => return []
  | fuel + 1, name, use, quoted => do
    let all := name = "@" || name = "*"
    let value? ← parameter? name
    let asItIs : Run (List Bit) := do
      if all then allParameters name quoted
      else
        if value?.isNone && (← process).careful then giveUp s!"{name}: parameter not set"
        return [bitOf quoted (value?.getD "")]
    match use with
    | .value => asItIs
    | .invalid => giveUp "Bad substitution"
    | .length =>
      if value?.isNone && (← process).careful then giveUp s!"{name}: parameter not set"
      return [bitOf quoted (Text.Decimal.text (value?.getD "").utf8ByteSize)]
    | .trim atEnd longest pattern =>
      let pattern := Pattern.ofGlyphs (textOf (← expand execute fuel false pattern))
      let trim := if atEnd then Pattern.trimEnd else Pattern.trimStart
      return [bitOf quoted (String.ofList (trim longest pattern (value?.getD "").toList))]
    | .fallback kind emptyToo word =>
      let present := match value? with
        | none => false
        | some value => !(emptyToo && value = "")
      match kind, present with
      | .use, true | .assign, true | .refuse, true => asItIs
      | .use, false => expand execute fuel (!quoted) word
      | .replace, true => expand execute fuel (!quoted) word
      | .replace, false => return if quoted then [.kept []] else []
      | .assign, false =>
        let text := Glyph.text (textOf (← expand execute fuel false word))
        assign name text
        return [bitOf quoted text]
      | .refuse, false =>
        let text := Glyph.text (textOf (← expand execute fuel false word))
        let text := if text ≠ "" then text
          else if emptyToo then "parameter not set or null" else "parameter not set"
        giveUp s!"{name}: {text}"

end

/-! ## Fields -/

/-- Fields that are finished, the latest first, and the one that is not. -/
structure Fields where
  finished : List (List Glyph)
  /-- In reverse. -/
  current : Option (List Glyph)
  /-- Whether a blank has ended the last field. -/
  blank : Bool

/-- Ends the field that is not finished. -/
def Fields.close (fields : Fields) : Fields :=
  match fields.current with
  | none => fields
  | some glyphs => { fields with finished := glyphs.reverse :: fields.finished, current := none }

/-- Adds glyphs to the field that is not finished. -/
def Fields.keep (fields : Fields) (glyphs : List Glyph) : Fields :=
  { fields with current := some (glyphs.reverse ++ fields.current.getD []), blank := false }

/-- Adds a character of text that is split. -/
def Fields.addLoose (separators : List Char) (fields : Fields) (c : Char) : Fields :=
  if !separators.contains c then fields.keep [⟨c, false⟩]
  else if c = ' ' || c = '\t' || c = '\n' then
    { fields.close with blank := fields.blank || fields.current.isSome }
  else if fields.current.isSome then { fields.close with blank := false }
  else if fields.blank then { fields with blank := false }
  else { fields with finished := [] :: fields.finished }

/-- Adds a part of a word. -/
def Fields.add (separators : List Char) (fields : Fields) : Bit → Fields
  | .kept glyphs => fields.keep glyphs
  | .loose text => text.toList.foldl (addLoose separators) fields
  | .boundary => { fields.close with blank := false }

/-- The fields of an expanded word. -/
def fieldsOf (separators : String) (bits : List Bit) : List (List Glyph) :=
  (bits.foldl (Fields.add separators.toList) ⟨[], none, false⟩).close.finished.reverse

/-! ## Names of files -/

/-- Splits at the slashes. -/
def segments : List Glyph → List (List Glyph)
  | [] => [[]]
  | glyph :: rest =>
    if glyph.char = '/' then [] :: segments rest
    else
      match segments rest with
      | first :: others => (glyph :: first) :: others
      | [] => [[glyph]]

/-- The paths that begin with one of `found` and go on with a segment. -/
def matchSegment (tree : FileSystem) (found : List String) (segment : List Glyph) :
    List String :=
  if Pattern.isPattern segment then
    let pattern := Pattern.ofGlyphs segment
    found.flatMap fun path =>
      match tree.locate (if path = "" then "." else path) with
      | .ok (location, .directory) =>
        let names := "." :: ".." :: tree.children location
        let names := names.filter fun name =>
          Pattern.covers pattern name.toList &&
            (name.toList.head? ≠ some '.' || segment.head?.map Glyph.char = some '.')
        names.map (path ++ ·)
      | _ => []
  else (found.map (· ++ Glyph.text segment)).filter fun path => path = "" || tree.exists? path

/-- The paths that a pattern matches. -/
def pathsOf (tree : FileSystem) (pattern : List Glyph) : List String :=
  match segments pattern with
  | [] => []
  | first :: rest =>
    rest.foldl (fun found segment => matchSegment tree (found.map (· ++ "/")) segment)
      (if first = [] then [""] else matchSegment tree [""] first)

/-- A field, or the names of files that it matches in order. -/
def namesOf (tree : FileSystem) (field : List Glyph) : List String :=
  if Pattern.isPattern field then
    match pathsOf tree field with
    | [] => [Glyph.text field]
    | paths => paths.mergeSort fun first second => first ≤ second
  else [Glyph.text field]

/-- More nesting than words have. -/
def depth : Nat := 10000

end Expansion

/-- Replaces a tilde and the name behind it at the beginning of a text by the home of
the one who is named, or of whoever runs the shell. -/
def withHome (home : Option String) (text : List Char) : Option (String × List Char) :=
  match text with
  | '~' :: rest =>
    let name := rest.takeWhile (· ≠ '/')
    let rest := rest.drop name.length
    if name = [] then home.map (·, rest)
    else if name = "root".toList then some ("/root", rest)
    else none
  | _ => none

/-- Splits a text behind each colon. -/
def behindColons : List Char → List (List Char)
  | [] => [[]]
  | ':' :: rest => [':'] :: behindColons rest
  | c :: rest =>
    match behindColons rest with
    | [] => [[c]]
    | first :: others => (c :: first) :: others

open Expansion in
/-- A word with homes in place of the tildes at its beginning and, in the value of an
assignment, behind colons. -/
def Word.withHomes (assigned : Bool) (word : Word) : Run Word := do
  match word with
  | .plain text :: rest =>
    if !text.toList.contains '~' then return word
    let home ← valueOf? "HOME"
    let parts := if assigned then behindColons text.toList else [text.toList]
    let last := parts.length - 1
    let pieces := parts.zipIdx.flatMap fun (part, index) =>
      match withHome home part with
      | some (path, after) =>
        -- a name that goes on in quotes is no name
        if index = last && after = [] && rest ≠ [] then [Piece.plain (String.ofList part)]
        else [.quoted path, .plain (String.ofList after)]
      | none => [.plain (String.ofList part)]
    return pieces ++ rest
  | _ => return word

open Expansion in
/-- The fields that a word stands for. -/
def Word.fields (execute : String → Run String) (word : Word) : Run (List String) := do
  let bits ← expand execute depth false (← word.withHomes false)
  let tree ← files
  let fields := fieldsOf (← separators) bits
  return if (← process).has 'f' then fields.map Glyph.text else fields.flatMap (namesOf tree)

open Expansion in
/-- What a word stands for where it is not split. -/
def Word.glyphs (execute : String → Run String) (word : Word) : Run (List Glyph) := do
  return textOf (← expand execute depth false word)

/-- The text that a word stands for where it is not split. -/
def Word.text (execute : String → Run String) (word : Word) : Run String := do
  return Glyph.text (← Word.glyphs execute word)

end StepGraph.Shell
