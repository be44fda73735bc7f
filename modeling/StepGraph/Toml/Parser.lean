import StepGraph.Toml.Scalar
import StepGraph.Toml.Tree

/-! Reading TOML documents, in version 1.1: line breaks and a closing comma may
stand in inline tables, and seconds may be left out of times. A document is read
line by line into the tree that its headers and keys build; a document that
breaks the grammar anywhere, or sets something twice, has no value. -/
namespace StepGraph.Toml

/-! ## Blanks and comments -/

/-- Blanks within a line. -/
def isBlank (c : Char) : Bool := c == ' ' || c == '\t'

/-- What follows the blanks. -/
def skipBlanks (cs : List Char) : List Char := cs.dropWhile isBlank

/-- Whether a character may stand in a comment or a text as it is. -/
def isPlain (c : Char) : Bool := c == '\t' || (0x20 ≤ c.toNat && c.toNat ≠ 0x7F)

/-- What follows the line break at the beginning, if there is one. -/
def lineBreak? : List Char → Option (List Char)
  | '\n' :: rest => some rest
  | '\r' :: '\n' :: rest => some rest
  | _ => none

/-- What follows a comment, if there is one; it ends before the line break. -/
def skipComment : List Char → List Char
  | '#' :: rest => rest.dropWhile isPlain
  | cs => cs

/-- What follows the end of a line: blanks, a comment, and a line break or the
end of the document. -/
def endOfLine? (cs : List Char) : Option (List Char) :=
  match skipComment (skipBlanks cs) with
  | [] => some []
  | rest => lineBreak? rest

/-- What follows blanks, comments and line breaks. `fuel` bounds the lines. -/
def skipLines : (fuel : Nat) → List Char → List Char
  | 0, cs => cs
  | fuel + 1, cs =>
    let rest := skipComment (skipBlanks cs)
    match lineBreak? rest with
    | some next => skipLines fuel next
    | none => rest

/-! ## Texts -/

/-- The character that a code denotes. -/
def character? (code : Option Nat) : Option Char := do
  let code ← code
  if code < 0xD800 ∨ (0xE000 ≤ code ∧ code < 0x110000) then some (Char.ofNat code) else none

/-- What a backslash and the characters behind it stand for, and the rest. -/
def unescape? : List Char → Option (Char × List Char)
  | 'b' :: rest => some ('\x08', rest)
  | 't' :: rest => some ('\t', rest)
  | 'n' :: rest => some ('\n', rest)
  | 'f' :: rest => some ('\x0c', rest)
  | 'r' :: rest => some ('\r', rest)
  | 'e' :: rest => some ('\x1b', rest)
  | '"' :: rest => some ('"', rest)
  | '\\' :: rest => some ('\\', rest)
  | 'x' :: rest => coded? 2 rest
  | 'u' :: rest => coded? 4 rest
  | 'U' :: rest => coded? 8 rest
  | _ => none
where
  coded? (count : Nat) (cs : List Char) : Option (Char × List Char) :=
    let digits := cs.take count
    if digits.length = count then
      (character? (Text.Hex.number? digits)).map (·, cs.drop count)
    else none

/-- A text in quotation marks on one line, from behind the opening mark. The
characters read so far are kept in reverse. -/
def basicText? (done : List Char) : (fuel : Nat) → List Char → Option (List Char × List Char)
  | 0, _ => none
  | fuel + 1, cs =>
    match cs with
    | '"' :: rest => some (done.reverse, rest)
    | '\\' :: rest =>
      match unescape? rest with
      | some (c, rest) => basicText? (c :: done) fuel rest
      | none => none
    | c :: rest => if isPlain c then basicText? (c :: done) fuel rest else none
    | [] => none

/-- A text in apostrophes on one line, from behind the opening one. -/
def literalText? (done : List Char) : List Char → Option (List Char × List Char)
  | '\'' :: rest => some (done.reverse, rest)
  | c :: rest => if isPlain c then literalText? (c :: done) rest else none
  | [] => none

/-- What follows blanks and line breaks. -/
def skipBlankLines : List Char → List Char
  | '\r' :: '\n' :: rest => skipBlankLines rest
  | c :: rest => if isBlank c || c == '\n' then skipBlankLines rest else c :: rest
  | [] => []

/-- What follows blanks and line breaks, the first of which has to be there. -/
def foldedLine? (cs : List Char) : Option (List Char) :=
  (lineBreak? (skipBlanks cs)).map skipBlankLines

/-- The end of a text in three quotation marks: three to five marks, of which
all but the last three belong to the text. -/
def closing? (mark : Char) (cs : List Char) : Option (List Char × List Char) :=
  let count := (cs.takeWhile (· == mark)).length
  if count < 3 then none
  else
    let inside := min (count - 3) 2
    some (List.replicate inside mark, cs.drop (inside + 3))

/-- A text in three quotation marks. -/
def basicLines? (done : List Char) : (fuel : Nat) → List Char → Option (List Char × List Char)
  | 0, _ => none
  | fuel + 1, cs =>
    match closing? '"' cs with
    | some (inside, rest) => some (done.reverse ++ inside, rest)
    | none =>
      match cs with
      | '\\' :: rest =>
        match foldedLine? rest with
        | some rest => basicLines? done fuel rest
        | none =>
          match unescape? rest with
          | some (c, rest) => basicLines? (c :: done) fuel rest
          | none => none
      | '\r' :: '\n' :: rest => basicLines? ('\n' :: '\r' :: done) fuel rest
      | c :: rest => if isPlain c || c == '\n' then basicLines? (c :: done) fuel rest else none
      | [] => none

/-- A text in three apostrophes. -/
def literalLines? (done : List Char) : (fuel : Nat) → List Char → Option (List Char × List Char)
  | 0, _ => none
  | fuel + 1, cs =>
    match closing? '\'' cs with
    | some (inside, rest) => some (done.reverse ++ inside, rest)
    | none =>
      match cs with
      | '\r' :: '\n' :: rest => literalLines? ('\n' :: '\r' :: done) fuel rest
      | c :: rest => if isPlain c || c == '\n' then literalLines? (c :: done) fuel rest else none
      | [] => none

/-- What follows the line break right behind an opening mark. -/
def skipFirstBreak (cs : List Char) : List Char := (lineBreak? cs).getD cs

/-- A text in any of the four kinds of marks. -/
def text? (cs : List Char) : Option (List Char × List Char) :=
  match cs with
  | '"' :: '"' :: '"' :: rest => basicLines? [] (rest.length + 1) (skipFirstBreak rest)
  | '"' :: rest => basicText? [] (rest.length + 1) rest
  | '\'' :: '\'' :: '\'' :: rest => literalLines? [] (rest.length + 1) (skipFirstBreak rest)
  | '\'' :: rest => literalText? [] rest
  | _ => none

/-! ## Keys -/

/-- Whether a character may stand in a key without marks. -/
def isBare (c : Char) : Bool :=
  ('a' ≤ c && c ≤ 'z') || ('A' ≤ c && c ≤ 'Z') || ('0' ≤ c && c ≤ '9') || c == '_' || c == '-'

/-- One part of a key. -/
def keyPart? (cs : List Char) : Option (String × List Char) :=
  match cs with
  | '"' :: rest => (basicText? [] (rest.length + 1) rest).map fun found =>
    (String.ofList found.1, found.2)
  | '\'' :: rest => (literalText? [] rest).map fun found => (String.ofList found.1, found.2)
  | _ =>
    let bare := cs.takeWhile isBare
    if bare.isEmpty then none else some (String.ofList bare, cs.dropWhile isBare)

/-- A key has at most this many points. -/
def pathLimit : Nat := 79

/-- The parts of a key, with points between them. The last part is given apart.
The parts read so far are kept in reverse, and `points` bounds those to come. -/
def keyParts? (done : List String) : (points : Nat) → List Char →
    Option (List String × String × List Char)
  | points, cs =>
    match keyPart? (skipBlanks cs) with
    | none => none
    | some (part, rest) =>
      match points, skipBlanks rest with
      | 0, '.' :: _ => none
      | points + 1, '.' :: rest => keyParts? (part :: done) points rest
      | _, rest => some (done.reverse, part, rest)

/-- A key and what follows it. -/
def key? (cs : List Char) : Option (List String × String × List Char) :=
  keyParts? [] pathLimit cs

/-! ## Values -/

/-- Arrays and inline tables nest at most this deep. -/
def nestingLimit : Nat := 80

/-- Whether a character ends a scalar. -/
def endsScalar (c : Char) : Bool :=
  isBlank c || c == '\n' || c == '\r' || c == ',' || c == ']' || c == '}' || c == '[' ||
    c == '{' || c == '#' || c == '"' || c == '\'' || c == '='

/-- A scalar without marks, and what follows it. One blank may stand between a
date and a time. -/
def bareScalar? (cs : List Char) : Option (Data × List Char) :=
  let word := cs.takeWhile (!endsScalar ·)
  let rest := cs.dropWhile (!endsScalar ·)
  let joined : Option (List Char × List Char) :=
    match date? word, rest with
    | some [], ' ' :: more =>
      let next := more.takeWhile (!endsScalar ·)
      match hoursAndMinutes? next with
      | some _ => some (word ++ ' ' :: next, more.dropWhile (!endsScalar ·))
      | none => none
    | _, _ => none
  match joined with
  | some (scalar, rest) => (scalar? scalar).map (·, rest)
  | none => (scalar? word).map (·, rest)

mutual

/-- A value and what follows it. `depth` counts the arrays and inline tables
around the value, this one included; `fuel` bounds the calls still to come. -/
def value? (depth : Nat) : (fuel : Nat) → List Char → Option (Data × List Char)
  | 0, _ => none
  | fuel + 1, cs =>
    match cs with
    | '[' :: rest =>
      if nestingLimit < depth then none
      else (items? depth fuel [] rest).map fun found => (.openList found.1, found.2)
    | '{' :: rest =>
      if nestingLimit < depth then none
      else (inlineTable? depth fuel [] rest).map fun found =>
        (.record (entriesToData found.1), found.2)
    | '"' :: _ => (text? cs).map fun found => (.text (String.ofList found.1), found.2)
    | '\'' :: _ => (text? cs).map fun found => (.text (String.ofList found.1), found.2)
    | _ => bareScalar? cs

/-- The items of an array from one of them on, over the closing bracket; the
items read so far are kept in reverse. -/
def items? (depth : Nat) : (fuel : Nat) → List Data → List Char → Option (List Data × List Char)
  | 0, _, _ => none
  | fuel + 1, done, cs =>
    match skipLines cs.length cs with
    | ']' :: rest => some (done.reverse, rest)
    | start =>
      match value? (depth + 1) fuel start with
      | none => none
      | some (item, rest) =>
        match skipLines rest.length rest with
        | ']' :: rest => some ((item :: done).reverse, rest)
        | ',' :: rest => items? depth fuel (item :: done) rest
        | _ => none

/-- The entries of an inline table from one of them on, over the closing brace.
Line breaks and comments may stand around the equality sign. -/
def inlineTable? (depth : Nat) :
    (fuel : Nat) → Entries → List Char → Option (Entries × List Char)
  | 0, _, _ => none
  | fuel + 1, done, cs =>
    match skipLines cs.length cs with
    | '}' :: rest => some (done, rest)
    | start =>
      match key? start with
      | none => none
      | some (path, name, rest) =>
        match skipLines rest.length rest with
        | '=' :: rest =>
          match value? (depth + 1) fuel (skipLines rest.length rest) with
          | none => none
          | some (data, rest) =>
            match insertValue? path name data done with
            | none => none
            | some entries =>
              match skipLines rest.length rest with
              | '}' :: rest => some (entries, rest)
              | ',' :: rest => inlineTable? depth fuel entries rest
              | _ => none
        | _ => none

end

/-! ## Documents -/

/-- A header from behind its opening bracket, over the end of its line. -/
def header? (isElement : Bool) (cs : List Char) : Option (Header × List Char) := do
  let (path, name, rest) ← key? cs
  let rest ←
    match isElement, rest with
    | true, ']' :: ']' :: rest => some rest
    | false, ']' :: rest => some rest
    | _, _ => none
  some (⟨path, name, isElement⟩, ← endOfLine? rest)

/-- The lines of a document, one by one. -/
def lines? (builder : Builder) : (fuel : Nat) → List Char → Option Builder
  | 0, _ => none
  | fuel + 1, cs =>
    match skipBlanks cs with
    | [] => some builder
    | '[' :: '[' :: rest => do
      let (header, rest) ← header? true rest
      lines? (← builder.begin? header) fuel rest
    | '[' :: rest => do
      let (header, rest) ← header? false rest
      lines? (← builder.begin? header) fuel rest
    | c :: rest =>
      match endOfLine? (c :: rest) with
      | some next => lines? builder fuel next
      | none => do
        match ← key? (c :: rest) with
        | (path, name, '=' :: rest) =>
          let start := skipBlanks rest
          let (data, rest) ← value? 1 (start.length + 1) start
          let next ← endOfLine? rest
          lines? (← builder.insert? path name data) fuel next
        | _ => none

/-- The value of a TOML document; nothing if the text is not one. A byte-order
mark at the beginning is skipped. -/
def parse? (text : String) : Option Data := do
  let cs :=
    match text.toList with
    | c :: rest => if c = Char.ofNat 0xFEFF then rest else c :: rest
    | [] => []
  let builder ← lines? .empty (cs.length + 1) cs
  some (.record (entriesToData (← builder.finish?)))

end StepGraph.Toml
