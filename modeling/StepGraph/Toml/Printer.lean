import StepGraph.Data
import StepGraph.Text.Decimal
import StepGraph.Text.Hex

/-! TOML texts of data. A text is put into the marks that need the fewest
escapes; keys go without marks where they can. A table shows its plain values
first and then its subtables, each under a header with an empty line above it. A
table of nothing but subtables needs no header of its own. -/
namespace StepGraph.Toml

/-! ## Marks -/

/-- The marks around a text. -/
inductive Marks
  /-- `"…"`, on one line. -/
  | basic
  /-- `'…'`, on one line and without escapes. -/
  | literal
  /-- `"""…"""`, over several lines. -/
  | basicLines
  /-- `'''…'''`, over several lines and without escapes. -/
  | literalLines

/-- The length of the longest run of a character. -/
def longestRun (mark : Char) (cs : List Char) : Nat :=
  (cs.foldl (fun (longest, run) c =>
    if c = mark then (max longest (run + 1), run + 1) else (longest, 0)) (0, 0)).1

/-- Whether a character is a control character that no marks show as it is. -/
def needsCode (c : Char) : Bool :=
  (c.toNat < 0x20 && c != '\t' && c != '\n') || c.toNat == 0x7F

/-- The marks for a text. -/
def Marks.forText (cs : List Char) : Marks :=
  let codes := cs.any needsCode
  let backslash := cs.contains '\\'
  let lines := cs.contains '\n'
  if !codes && !backslash && longestRun '"' cs = 0 && !lines then .basic
  else if !codes && longestRun '\'' cs = 0 && !lines then .literal
  else if !codes && !backslash && longestRun '"' cs ≤ 2 then .basicLines
  else if !codes && longestRun '\'' cs ≤ 2 then .literalLines
  else if lines then .basicLines
  else .basic

/-- The marks for a key. -/
def Marks.forKey (cs : List Char) : Marks :=
  let codes := cs.any fun c => needsCode c || c == '\n'
  if !codes && !cs.contains '\\' && longestRun '"' cs = 0 then .basic
  else if !codes && longestRun '\'' cs = 0 then .literal
  else .basic

/-! ## Escapes -/

/-- The code of a control character. -/
def codeEscape (c : Char) : List Char :=
  ['\\', 'u', '0', '0', Text.Hex.upperDigit (c.toNat / 16), Text.Hex.upperDigit (c.toNat % 16)]

/-- A character inside basic marks, if it cannot stand there as it is. -/
def escape? (lines : Bool) (c : Char) : Option (List Char) :=
  if c = '\\' then some ['\\', '\\']
  else if c = '\x08' then some ['\\', 'b']
  else if c = '\t' then some ['\\', 't']
  else if c = '\n' then if lines then none else some ['\\', 'n']
  else if c = '\x0c' then some ['\\', 'f']
  else if c = '\r' then some ['\\', 'r']
  else if needsCode c then some (codeEscape c)
  else none

/-- A text inside basic marks. `run` quotation marks stand before it; of more
than `allowed` in a row one is escaped, which begins a new row. -/
def escapeText (lines : Bool) (allowed : Nat) : (run : Nat) → List Char → List Char
  | _, [] => []
  | run, c :: rest =>
    if c = '"' then
      if allowed ≤ run then '\\' :: '"' :: escapeText lines allowed 0 rest
      else '"' :: escapeText lines allowed (run + 1) rest
    else
      match escape? lines c with
      | some escaped => escaped ++ escapeText lines allowed 0 rest
      | none => c :: escapeText lines allowed 0 rest

/-- A line break behind opening marks, for a text of several lines. -/
def openingBreak (cs : List Char) : List Char := if cs.contains '\n' then ['\n'] else []

/-- A text in its marks. -/
def Marks.around (cs : List Char) : Marks → List Char
  | .basic => '"' :: (escapeText false 0 0 cs ++ ['"'])
  | .literal => '\'' :: (cs ++ ['\''])
  | .basicLines =>
    ['"', '"', '"'] ++ openingBreak cs ++ escapeText true 2 0 cs ++ ['"', '"', '"']
  | .literalLines => ['\'', '\'', '\''] ++ openingBreak cs ++ cs ++ ['\'', '\'', '\'']

/-- A text as a value. -/
def quoteText (text : String) : List Char :=
  let cs := text.toList
  (Marks.forText cs).around cs

/-- Whether a key can go without marks. -/
def isBareKey (cs : List Char) : Bool :=
  !cs.isEmpty && cs.all fun c =>
    ('a' ≤ c && c ≤ 'z') || ('A' ≤ c && c ≤ 'Z') || ('0' ≤ c && c ≤ '9') || c == '_' || c == '-'

/-- One part of a key. -/
def quoteKey (key : String) : List Char :=
  let cs := key.toList
  if isBareKey cs then cs else (Marks.forKey cs).around cs

/-! ## Values and tables -/

mutual

/-- A value behind a key or in an array. -/
def inlineValue : Data → List Char
  | .null => quoteText ""
  | .bool true => ['t', 'r', 'u', 'e']
  | .bool false => ['f', 'a', 'l', 's', 'e']
  | .natural value => Text.Decimal.digits value
  | .text value => quoteText value
  | .list items => '[' :: arrayItems items
  | .openList items => '[' :: arrayItems items
  | .record fields => ['{', ' '] ++ inlineFields fields ++ ['}']
  | .other => quoteText ""
  | .unreadable => quoteText ""
  | .impassable => quoteText ""

/-- The items of an array and the closing bracket: two or more items stand on
lines of their own. -/
def arrayItems : List Data → List Char
  | [] => [']']
  | [item] => inlineValue item ++ [']']
  | first :: second :: rest =>
    '\n' :: (arrayLine first ++ arrayLine second ++ arrayLines rest ++ [']'])

/-- An item of an array on a line of its own. -/
def arrayLine (item : Data) : List Char :=
  List.replicate 4 ' ' ++ inlineValue item ++ [',', '\n']

/-- Items of an array, each on a line of its own. -/
def arrayLines : List Data → List Char
  | [] => []
  | item :: rest => arrayLine item ++ arrayLines rest

/-- The entries of a table inside an array. -/
def inlineFields : List (String × Data) → List Char
  | [] => []
  | [(key, value)] => quoteKey key ++ [' ', '=', ' '] ++ inlineValue value ++ [' ']
  | (key, value) :: next :: rest =>
    quoteKey key ++ [' ', '=', ' '] ++ inlineValue value ++ [',', ' '] ++
      inlineFields (next :: rest)

end

/-- The lines of the plain values of a table. -/
def valueLines : List (String × Data) → List Char
  | [] => []
  | (_, .record _) :: rest => valueLines rest
  | (key, value) :: rest =>
    quoteKey key ++ [' ', '=', ' '] ++ inlineValue value ++ '\n' :: valueLines rest

/-- Whether a table has a header: it does unless it has subtables alone. -/
def hasHeader (fields : List (String × Data)) : Bool :=
  fields.isEmpty || fields.any fun field =>
    match field.2 with
    | .record _ => false
    | _ => true

/-- The line of a header, with an empty line above it. -/
def headerLine (path : List String) : List Char :=
  ['\n', '['] ++ List.intercalate ['.'] (path.map quoteKey) ++ [']', '\n']

mutual

/-- A table and its subtables. -/
def tableLines (path : List String) : Data → List Char
  | .record fields =>
    (if hasHeader fields then headerLine path else []) ++ valueLines fields ++
      subtableLines path fields
  | _ => []

/-- The subtables of a table. -/
def subtableLines (path : List String) : List (String × Data) → List Char
  | [] => []
  | (key, value) :: rest => tableLines (path ++ [key]) value ++ subtableLines path rest

end

/-- The text of a document. -/
def render (fields : List (String × Data)) : String :=
  let lines := valueLines fields ++ subtableLines [] fields
  match lines with
  | '\n' :: rest => if (valueLines fields).isEmpty then String.ofList rest else String.ofList lines
  | _ => String.ofList lines

end StepGraph.Toml
