import StepGraph.Shell.Utility.Streams

/-! Counting lines, words and bytes. -/
namespace StepGraph.Shell.Utility
open Run

/-- Text with blanks before it, up to a width. -/
def padded (width : Nat) (text : String) : String := "".pushn ' ' (width - text.length) ++ text

/-- What is counted in an input. -/
structure Counts where
  lines : Nat
  words : Nat
  characters : Nat
  bytes : Nat
  /-- The width of the widest line. -/
  width : Nat

namespace Counts

def zero : Counts := ⟨0, 0, 0, 0, 0⟩

def add (first second : Counts) : Counts where
  lines := first.lines + second.lines
  words := first.words + second.words
  characters := first.characters + second.characters
  bytes := first.bytes + second.bytes
  width := max first.width second.width

/-- The words of a text are what stands between blanks. -/
def wordsIn (bytes : List UInt8) : Nat :=
  (bytes.foldl (fun (count, inside) byte =>
    let blank := byte = 32 || (9 ≤ byte && byte ≤ 13)
    (if !blank && !inside then count + 1 else count, !blank)) (0, false)).1

/-- The width of the widest line. A tab reaches to the next multiple of eight. -/
def widthOf (bytes : List UInt8) : Nat :=
  (bytes.foldl (fun (widest, width) byte =>
    let width := if byte = 10 || byte = 12 || byte = 13 then 0
      else if byte = 9 then (width / 8 + 1) * 8
      else if 32 ≤ byte && byte < 127 then width + 1
      else width
    (max widest width, width)) (0, 0)).1

def ofBytes (bytes : List UInt8) : Counts where
  lines := bytes.count 10
  words := wordsIn bytes
  characters := bytes.length
  bytes := bytes.length
  width := widthOf bytes

/-- The counts that options ask for. -/
def chosen (counts : Counts) (options : Options) : List Nat :=
  let all := [('l', counts.lines), ('w', counts.words), ('m', counts.characters),
    ('c', counts.bytes), ('L', counts.width)]
  match all.filter fun (letter, _) => options.has letter with
  | [] => [counts.lines, counts.words, counts.bytes]
  | asked => asked.map Prod.snd

end Counts

/-- The options of counting. -/
def countGrammar : Grammar where
  flags := "lwmcL"
  long := [("bytes", 'c'), ("chars", 'm'), ("lines", 'l'), ("words", 'w'),
    ("max-line-length", 'L')]

/-- The size of the file that is the standard input, if it is one. -/
def inputSize? : Run (Option Nat) := do
  match ← channel? 0 with
  | some (_, .file location _ _) =>
    match (← files).get? location with
    | some (.file content _) => return some content.size
    | _ => return none
  | _ => return none

/-- Counts lines, words and bytes. Several numbers are lined up: by the size of
files, or by seven digits if an input has no size. -/
def wc : Utility := withOptions countGrammar 1 fun speaker options => do
  let operands := if options.operands = [] then ["-"] else options.operands
  let sizes : List (Option (Option Nat)) ← operands.mapM fun path => do
    if path = "-" then return some (← inputSize?)
    else if path = "/dev/null" || path = "/dev/zero" || path = "/dev/stdin" then return some none
    else
      match (← files).locate path with
      | .ok (_, .file content _) => return some (some content.size)
      | .ok (_, .directory) => return some none
      | .error _ => return none
  let alone := operands.length = 1 && (Counts.zero.chosen options).length = 1
  let total := sizes.foldl (fun total size => total + (size.join.getD 0)) 0
  let least := if sizes.contains (some none) then 7 else 1
  let width := if alone || sizes.head? = some none then 1
    else max least (Text.Decimal.digits total).length
  let row (counts : Counts) (name : String) : String :=
    " ".intercalate ((counts.chosen options).map (padded width ∘ Text.Decimal.text)) ++
      (if options.operands = [] then "" else " " ++ name) ++ "\n"
  let mut total := Counts.zero
  let mut status := 0
  for path in operands do
    if path = "" then
      complain speaker "invalid zero-length file name"
      status := 1
    else
      match ← inputOf path with
      | .ok (bytes, forever) =>
        if forever ≠ [] then hang
        let counts := Counts.ofBytes bytes
        let _ ← print (row counts path)
        total := total.add counts
      | .error error =>
        let name := if options.operands = [] then "'standard input'" else path
        complain speaker s!"{name}: {error.reason}"
        status := 1
        if error = .isADirectory then
          let _ ← print (row Counts.zero path)
  if 1 < operands.length then
    let _ ← print (row total "total")
  return status

end StepGraph.Shell.Utility
