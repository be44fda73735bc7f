import StepGraph.Shell.Utility.Streams
import StepGraph.Shell.Octet

/-! Utilities that take lines apart and put them together. -/
namespace StepGraph.Shell.Utility
open Run

/-! ## Parts of lines -/

/-- Places from one to another, counted from one; without an end, all that follow. -/
structure Span where
  first : Nat
  last : Option Nat

/-- What a list of places counts. -/
inductive Counted
  | fields
  | positions
  deriving DecidableEq

/-- Places are not counted further than this. -/
def lastPlace : Nat := 18446744073709551614

/-- Reads the span that an item of a list is. -/
def spanOf (counted : Counted) (item : List Char) : Except String Span := do
  let zero := match counted with
    | .fields => "fields are numbered from 1"
    | .positions => "byte/character positions are numbered from 1"
  let misread (rest : List Char) : String :=
    let what := match counted with
      | .fields => "invalid field value"
      | .positions => "invalid byte/character position"
    s!"{what} '{String.ofList rest}'"
  let number (digits : List Char) : Except String Nat := do
    let value := Text.Decimal.value digits
    if lastPlace < value then
      let what := match counted with
        | .fields => "field number"
        | .positions => "byte/character offset"
      throw s!"{what} '{String.ofList digits}' is too large"
    return value
  let start := item.takeWhile Text.Decimal.isDigit
  match item.drop start.length with
  | [] =>
    let place ← number start
    if place = 0 then throw zero
    return ⟨place, some place⟩
  | '-' :: rest =>
    let stop := rest.takeWhile Text.Decimal.isDigit
    match rest.drop stop.length with
    | '-' :: _ =>
      throw (match counted with
        | .fields => "invalid field range"
        | .positions => "invalid byte or character range")
    | c :: others => throw (misread (c :: others))
    | [] =>
      if start = [] && stop = [] then throw "invalid range with no endpoint: -"
      let first ← if start = [] then pure 1 else number start
      if first = 0 then throw zero
      if stop = [] then return ⟨first, none⟩
      let last ← number stop
      if last < first then throw "invalid decreasing range"
      return ⟨first, some last⟩
  | rest => throw (misread rest)

/-- Spans in order, where those that overlap have become one. -/
def merged (spans : List Span) : List Span :=
  let ordered := spans.mergeSort fun first second => first.first ≤ second.first
  (ordered.foldl (fun done span =>
    match done with
    | [] => [span]
    | before :: others =>
      match before.last with
      | none => done
      | some last =>
        if span.first ≤ last then
          ⟨before.first, span.last.map (max last)⟩ :: others
        else span :: done) []).reverse

/-- The places that spans in order leave out. -/
def complementOf (spans : List Span) : List Span :=
  go 1 spans
where
  go (next : Nat) : List Span → List Span
    | [] => [⟨next, none⟩]
    | span :: rest =>
      let gap := if next < span.first then [⟨next, some (span.first - 1)⟩] else []
      match span.last with
      | none => gap
      | some last => gap ++ go (last + 1) rest

/-- The spans that a list says. -/
def spansOf (counted : Counted) (complement : Bool) (list : String) : Except String (List Span) := do
  let items := list.toList.splitOnP fun c => c = ',' || c = ' ' || c = '\t'
  let spans ← items.mapM (spanOf counted)
  return if complement then complementOf (merged spans) else merged spans

/-- What stands at the places of a span. -/
def Span.of {α : Type} (span : Span) (items : List α) : List α :=
  let rest := items.drop (span.first - 1)
  match span.last with
  | none => rest
  | some last => rest.take (last + 1 - span.first)

/-- The options of cutting. -/
def cutGrammar : Grammar where
  flags := "nsz!"
  valued := "bcdfo"
  long := [("bytes", 'b'), ("characters", 'c'), ("delimiter", 'd'), ("fields", 'f'),
    ("complement", '!'), ("only-delimited", 's'), ("output-delimiter", 'o'),
    ("zero-terminated", 'z')]

/-- Prints parts of lines. -/
def cut : Utility := withOptions cutGrammar 1 fun speaker options => do
  let lists := options.chosen.filter fun entry => "bcf".toList.contains entry.1
  match lists with
  | [] => misuse speaker "you must specify a list of bytes, characters, or fields" 1
  | _ :: _ :: _ => misuse speaker "only one list may be specified" 1
  | [(kind, list)] =>
    let delimiter := (options.value? 'd').map Text.Octet.ofText
    if 1 < (delimiter.map List.length).getD 0 then
      return ← misuse speaker "the delimiter must be a single character" 1
    if kind ≠ 'f' && delimiter.isSome then
      return ← misuse speaker "an input delimiter may be specified only when operating on fields" 1
    if kind ≠ 'f' && options.has 's' then
      return ← misuse speaker
        "suppressing non-delimited lines makes sense\n\tonly when operating on fields" 1
    match spansOf (if kind = 'f' then .fields else .positions) (options.has '!') list with
    | .error message => misuse speaker message 1
    | .ok spans =>
      let between := (options.value? 'o').map Text.Octet.ofText
      let separator := (delimiter.map fun chars => chars.headD '\x00').getD '\t'
      let part (line : List Char) : Option (List Char) :=
        if kind ≠ 'f' then
          let parts := (spans.map (·.of line)).filter (· ≠ [])
          some ((between.getD []).intercalate parts)
        else if line.contains separator then
          some ((between.getD [separator]).intercalate
            (spans.flatMap (·.of (line.splitOn separator))))
        else if options.has 's' then none
        else some line
      let (found, status) ← inputs plainComplaint speaker options.operands
      let lineEnd : UInt8 := if options.has 'z' then 0 else 10
      for (_, bytes, forever) in found do
        let cutLines (bytes : List UInt8) : List UInt8 :=
          (linesEndedBy lineEnd bytes).flatMap fun line =>
            match part (Text.Octet.ofBytes line) with
            | some chars => Text.Octet.toBytes chars ++ [lineEnd]
            | none => []
        let _ ← write 1 (cutLines bytes)
        if forever ≠ [] then writeForever (cutLines forever)
      return status

/-! ## Lines side by side -/

/-- The characters that a list of delimiters names; some escapes stand for others, and one
for none at all. -/
def delimitersOf : List Char → List (List Char)
  | '\\' :: c :: rest =>
    let first := match c with
      | 'n' => ['\n']
      | 't' => ['\t']
      | '0' => []
      | 'b' => ['\x08']
      | 'f' => ['\x0c']
      | 'r' => ['\r']
      | 'v' => ['\x0b']
      | c => [c]
    first :: delimitersOf rest
  | c :: rest => [c] :: delimitersOf rest
  | [] => []

/-- Texts joined by delimiters that come one after another, again and again. -/
def joinedBy (delimiters : List (List Char)) (texts : List (List Char)) : List Char :=
  (texts.zipIdx.map fun (text, index) =>
    if index = 0 then text
    else (delimiters[(index - 1) % max 1 delimiters.length]?).getD [] ++ text).flatten

/-- Prints the lines of inputs side by side, or those of each input in a row. -/
def paste : Utility :=
  let grammar : Grammar := {
    flags := "sz", valued := "d"
    long := [("delimiters", 'd'), ("serial", 's'), ("zero-terminated", 'z')] }
  withOptions grammar 1 fun speaker options => do
    let delimiters := delimitersOf (Text.Octet.ofText ((options.value? 'd').getD "\t"))
    let operands := if options.operands = [] then ["-"] else options.operands
    let serial := options.has 's'
    let dashes := operands.count "-"
    let shared : List (List Char) ← if dashes = 0 then pure []
      else do
        let supply ← takeInput 0
        pure ((lines (supply.toOption.getD ([], [])).1).map Text.Octet.ofBytes)
    -- the lines of the standard input are dealt out among all columns that stand for it
    let dealt (rank : Nat) : List (List Char) :=
      if serial then (if rank = 0 then shared else [])
      else (shared.zipIdx.filter fun (_, index) => index % dashes = rank).map Prod.fst
    let mut columns : List (List (List Char)) := []
    let mut rank := 0
    let mut status := 0
    for path in operands do
      if path = "-" then
        columns := columns ++ [dealt rank]
        rank := rank + 1
      else
        match ← inputAt path with
        | .ok (bytes, _) => columns := columns ++ [(lines bytes).map Text.Octet.ofBytes]
        | .error error => status ← refused speaker path error
    if status ≠ 0 && !serial then return status
    let height := columns.foldl (fun height column => max height column.length) 0
    let rows := if serial then columns
      else (List.range height).map fun row => columns.map fun column => (column[row]?).getD []
    for row in rows do
      let _ ← write 1 (Text.Octet.toBytes (joinedBy delimiters row) ++ [10])
    return status

end StepGraph.Shell.Utility
