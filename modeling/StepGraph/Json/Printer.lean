import StepGraph.Data
import StepGraph.Text.Decimal
import StepGraph.Text.Hex

/-! JSON texts of data, in two layouts. The compact one holds no blanks. The
pretty one puts every item and field on a line of its own, two blanks deeper
than what holds it, and writes an empty list or record without a line break.
Both escape the quotation mark, the backslash and the control characters, and
nothing else. -/
namespace StepGraph.Json

/-- Where blanks go. Both pieces consist of blanks and, in `colon`, one colon. -/
structure Layout where
  /-- What begins a line at a depth of nesting. -/
  lineBreak : Nat → List Char
  /-- What stands between a field's name and its value. -/
  colon : List Char

/-- No blanks at all. -/
def Layout.compact : Layout := ⟨fun _ => [], [':']⟩

/-- One line per item and two blanks per depth. -/
def Layout.pretty : Layout :=
  ⟨fun depth => '\n' :: List.replicate (2 * depth) ' ', [':', ' ']⟩

/-- A character as it stands inside quotation marks. -/
def escape (c : Char) : List Char :=
  if c = '"' then ['\\', '"']
  else if c = '\\' then ['\\', '\\']
  else if c = '\n' then ['\\', 'n']
  else if c = '\r' then ['\\', 'r']
  else if c = '\t' then ['\\', 't']
  else if c = '\x08' then ['\\', 'b']
  else if c = '\x0c' then ['\\', 'f']
  else if c.toNat < 0x20 then
    ['\\', 'u', '0', '0', Text.Hex.lowerDigit (c.toNat / 16), Text.Hex.lowerDigit (c.toNat % 16)]
  else [c]

/-- A text in quotation marks. -/
def quote (text : String) : List Char :=
  '"' :: (text.toList.flatMap escape ++ ['"'])

mutual

/-- The text of a value that stands at a depth of nesting. Values that no field
takes are never written; they are given the text of null. -/
def render (layout : Layout) (depth : Nat) : Data → List Char
  | .null => ['n', 'u', 'l', 'l']
  | .bool true => ['t', 'r', 'u', 'e']
  | .bool false => ['f', 'a', 'l', 's', 'e']
  | .natural value => Text.Decimal.digits value
  | .text value => quote value
  | .list items => '[' :: renderList layout depth items
  | .openList items => '[' :: renderList layout depth items
  | .record [] => ['{', '}']
  | .record ((name, value) :: rest) =>
    '{' :: (layout.lineBreak (depth + 1) ++ quote name ++ layout.colon ++
      render layout (depth + 1) value ++ renderFields layout (depth + 1) rest ++
      layout.lineBreak depth ++ ['}'])
  | .other => ['n', 'u', 'l', 'l']
  | .unreadable => ['n', 'u', 'l', 'l']
  | .impassable => ['n', 'u', 'l', 'l']

/-- The items of a list and the closing bracket. -/
def renderList (layout : Layout) (depth : Nat) : List Data → List Char
  | [] => [']']
  | item :: rest =>
    layout.lineBreak (depth + 1) ++ render layout (depth + 1) item ++
      renderItems layout (depth + 1) rest ++ layout.lineBreak depth ++ [']']

/-- The items after the first, each behind a comma. -/
def renderItems (layout : Layout) (depth : Nat) : List Data → List Char
  | [] => []
  | item :: rest =>
    ',' :: (layout.lineBreak depth ++ render layout depth item ++ renderItems layout depth rest)

/-- The fields after the first, each behind a comma. -/
def renderFields (layout : Layout) (depth : Nat) : List (String × Data) → List Char
  | [] => []
  | (name, value) :: rest =>
    ',' :: (layout.lineBreak depth ++ quote name ++ layout.colon ++ render layout depth value ++
      renderFields layout depth rest)

end

/-- The compact text of a value. -/
def compact (data : Data) : String := String.ofList (render .compact 0 data)

/-- The pretty text of a value. -/
def pretty (data : Data) : String := String.ofList (render .pretty 0 data)

end StepGraph.Json
