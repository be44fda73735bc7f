/-! Patterns for names. A star matches any text, a question mark one character,
and a list in brackets one of its characters; quoted characters match
themselves. -/
namespace StepGraph.Shell

/-- A character, and whether it was quoted. -/
structure Glyph where
  char : Char
  quoted : Bool
  deriving DecidableEq

/-- The text of glyphs. -/
def Glyph.text (glyphs : List Glyph) : String := String.ofList (glyphs.map Glyph.char)

/-- Part of a pattern. -/
inductive Pattern
  | char (c : Char)
  | one
  | many
  /-- One character of some ranges, or none of them. -/
  | among (outside : Bool) (ranges : List (Char × Char))
  deriving DecidableEq

namespace Pattern

/-- The ranges that a list in brackets names, up to the bracket that closes it. The
first bracket belongs to the list. -/
def ranges? : (first : Bool) → List Glyph → Option (List (Char × Char) × List Glyph)
  | _, [] => none
  | first, ⟨c, quoted⟩ :: rest =>
    if c = ']' && !quoted && !first then some ([], rest)
    else
      match rest with
      | ⟨'-', false⟩ :: ⟨last, quotedLast⟩ :: rest =>
        if last = ']' && !quotedLast then
          some ([(c, c), ('-', '-')], rest)
        else (ranges? false rest).map fun (ranges, rest) => ((c, last) :: ranges, rest)
      | rest => (ranges? false rest).map fun (ranges, rest) => ((c, c) :: ranges, rest)

/-- A list in brackets, behind the bracket that opens it. -/
def list? (glyphs : List Glyph) : Option (Pattern × List Glyph) :=
  match glyphs with
  | ⟨'!', false⟩ :: rest => (ranges? true rest).map fun (ranges, rest) => (.among true ranges, rest)
  | rest => (ranges? true rest).map fun (ranges, rest) => (.among false ranges, rest)

/-- Reads a pattern. `fuel` bounds the glyphs. -/
def read : (fuel : Nat) → List Glyph → List Pattern
  | 0, _ => []
  | _, [] => []
  | fuel + 1, ⟨c, quoted⟩ :: rest =>
    if quoted then .char c :: read fuel rest
    else if c = '*' then .many :: read fuel rest
    else if c = '?' then .one :: read fuel rest
    else if c = '[' then
      match list? rest with
      | some (list, rest) => list :: read fuel rest
      | none => .char c :: read fuel rest
    else .char c :: read fuel rest

/-- The pattern of a word. -/
def ofGlyphs (glyphs : List Glyph) : List Pattern := read (glyphs.length + 1) glyphs

/-- Whether a word has to be matched against names at all. -/
def isPattern (glyphs : List Glyph) : Bool :=
  (ofGlyphs glyphs).any fun
    | .char _ => false
    | _ => true

/-- Whether a part of a pattern, which is not a star, matches a character. -/
def accepts : Pattern → Char → Bool
  | .char expected, c => expected = c
  | .one, _ => true
  | .many, _ => false
  | .among outside ranges, c => ranges.any (fun (low, high) => low ≤ c && c ≤ high) != outside

/-- Whether a pattern matches a whole text. -/
def covers : List Pattern → List Char → Bool
  | [], text => text.isEmpty
  | .many :: rest, [] => covers rest []
  | .many :: rest, c :: text => covers rest (c :: text) || covers (.many :: rest) text
  | _ :: _, [] => false
  | part :: rest, c :: text => part.accepts c && covers rest text
termination_by pattern text => pattern.length + text.length

/-- The text without what a pattern matches at its beginning. -/
def trimStart (longest : Bool) (pattern : List Pattern) (text : List Char) : List Char :=
  let lengths := List.range (text.length + 1)
  let lengths := if longest then lengths.reverse else lengths
  match lengths.find? fun count => covers pattern (text.take count) with
  | some count => text.drop count
  | none => text

/-- The text without what a pattern matches at its end. -/
def trimEnd (longest : Bool) (pattern : List Pattern) (text : List Char) : List Char :=
  let lengths := List.range (text.length + 1)
  let lengths := if longest then lengths else lengths.reverse
  match lengths.find? fun count => covers pattern (text.drop count) with
  | some count => text.take count
  | none => text

end Pattern
end StepGraph.Shell
