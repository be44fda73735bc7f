import StepGraph.Shell.Descent
import StepGraph.Shell.Pattern
import StepGraph.Shell.Utility.Order
import StepGraph.Shell.Utility.Permissions

/-! Listing files and directories. Names come in the order of their bytes unless another
order is asked for. -/
namespace StepGraph.Shell.Utility
open Run

/-- Something that is listed. -/
structure Listed where
  name : String
  node : FileNode

namespace Listed

def isDirectory (listed : Listed) : Bool := listed.node matches .directory

/-- The size; that of a directory is always the same. -/
def size (listed : Listed) : Nat :=
  match listed.node with
  | .file content _ => content.size
  | .directory => 4096

/-- The permissions; those of a directory are always the same. -/
def bits (listed : Listed) : Nat :=
  match listed.node with
  | .file _ mode => mode.bits
  | .directory => 0o755

/-- How many kilobytes it takes up. -/
def blocks (listed : Listed) : Nat := (listed.size + 4095) / 4096 * 4

/-- How many links lead to it, of which a directory has one for each directory in it. -/
def links (listed : Listed) (tree : FileSystem) (location : Location) : Nat :=
  if listed.isDirectory then
    2 + ((tree.children location).filter fun name =>
      tree.get? (location ++ [name]) = some .directory).length
  else 1

/-- The ending of a name, with its point. -/
def ending (listed : Listed) : List Char :=
  match listed.name.toList.reverse.splitOn '.' with
  | _ :: [] => []
  | last :: _ => '.' :: last.reverse
  | [] => []

end Listed

/-- Names in the order of their bytes. -/
def sortedNames (names : List String) : List String :=
  names.mergeSort fun first second => bytesBefore first.toUTF8.toList second.toUTF8.toList

/-- Whether a name is covered by one of the patterns that an option gives. -/
def coveredBy (options : Options) (letter : Char) (name : String) : Bool :=
  options.chosen.any fun (found, value) =>
    found = letter && Pattern.covers (Pattern.ofGlyphs (value.toList.map (⟨·, false⟩))) name.toList

/-- Whether a name in a directory is listed. -/
def isListed (options : Options) (name : String) : Bool :=
  let hidden := name.toList.head? = some '.'
  let all := options.has 'a' || options.has 'A' || options.has 'f'
  (all || (!hidden && !coveredBy options '%' name)) && !coveredBy options 'I' name &&
    !(options.has 'B' && name.endsWith "~")

/-- What is listed, in the order that is asked for. -/
def inListedOrder (options : Options) (all : List Listed) : List Listed :=
  let byName (first second : Listed) : Bool :=
    bytesBefore first.name.toUTF8.toList second.name.toUTF8.toList
  let byKey {α : Type} [BEq α] (key : Listed → α) (before : α → α → Bool) (first second : Listed) :
      Bool :=
    if key first == key second then byName first second else before (key first) (key second)
  let sort := (options.value? '^').getD ""
  let ordered :=
    if options.has 'U' || options.has 'f' || sort = "none" then all
    else if options.has 't' || sort = "time" then all.reverse
    else if options.has 'S' || sort = "size" then
      all.mergeSort (byKey Listed.size fun first second => second < first)
    else if options.has 'X' || sort = "extension" then
      all.mergeSort (byKey Listed.ending fun first second => compareChars first second = .lt)
    else if options.has 'v' || sort = "version" then
      all.mergeSort (byKey Listed.name fun first second =>
        compareVersions (first.length + second.length + 1) first.toList second.toList = .lt)
    else all.mergeSort byName
  let ordered := if options.has 'r' then ordered.reverse else ordered
  if options.has '&' then
    ordered.filter Listed.isDirectory ++ ordered.filter fun listed => !listed.isDirectory
  else ordered

/-- A name as it is shown, with a mark that says what it names. -/
def shownName (options : Options) (listed : Listed) : String :=
  let style := (options.value? '~').getD ""
  let classifies := options.has 'F' || style = "classify"
  let mark :=
    if listed.isDirectory && (classifies || options.has 'p' || style = "slash" ||
        style = "file-type") then "/"
    else if classifies && !listed.isDirectory && listed.bits &&& 0o111 ≠ 0 then "*"
    else ""
  let quote (marks : List Char) : String :=
    String.ofList (listed.name.toList.flatMap fun c => if marks.contains c then ['\\', c] else [c])
  let name :=
    if options.has 'Q' then "\"" ++ quote ['"', '\\'] ++ "\""
    else if options.has 'b' then quote [' ', '\\']
    else listed.name
  name ++ mark

/-- The width of a line. -/
def lineWidth : Nat := 80

/-- Blanks from one column to another; tabs are used where they reach far enough. -/
def indentation : (fuel : Nat) → (start stop : Nat) → String
  | 0, _, _ => ""
  | fuel + 1, start, stop =>
    if stop ≤ start then ""
    else if (start + 1) / 8 < stop / 8 then
      "\t" ++ indentation fuel (start / 8 * 8 + 8) stop
    else " " ++ indentation fuel (start + 1) stop

/-- The rows of a table that has so many columns, as names and where the next one begins. -/
def tableRows (names : List String) (columns : Nat) (across : Bool) : List (List (String × Nat)) :=
  let rows := (names.length + columns - 1) / columns
  let place (row column : Nat) : Nat := if across then row * columns + column else column * rows + row
  let width (column : Nat) : Nat :=
    (List.range rows).foldl (fun width row =>
      max width (((names[place row column]?).map String.length).getD 0)) 0 + 2
  (List.range rows).map fun row => (List.range columns).filterMap fun column =>
    names[place row column]?.map (·, width column)

/-- Names in as many columns as there is room for. -/
def tabulated (names : List String) (across : Bool) : String :=
  let fits (columns : Nat) : Bool :=
    (tableRows names columns across).all fun row =>
      row.foldl (fun total entry => total + entry.2) 0 - 2 < lineWidth + 1
  let candidates := (List.range (names.length + 1)).reverse.filter (0 < ·)
  let columns := (candidates.find? fits).getD 1
  String.join ((tableRows names columns across).map fun row =>
    let last := row.length - 1
    let text := row.zipIdx.foldl (fun (text, column) ((name, width), index) =>
      let shown := text ++ name
      if index = last then (shown, column)
      else (shown ++ indentation width (column + name.length) (column + width), column + width))
      ("", 0)
    text.1 ++ "\n")

/-- Names with commas between them, in lines. -/
def withCommas (names : List String) : String :=
  let (text, _) := names.zipIdx.foldl (fun (text, column) (name, index) =>
    let more := if index + 1 < names.length then "," else ""
    if column = 0 then (text ++ name ++ more, name.length + more.length)
    else if column + 1 + name.length + more.length ≤ lineWidth - 1 then
      (text ++ " " ++ name ++ more, column + 1 + name.length + more.length)
    else (text ++ "\n" ++ name ++ more, name.length + more.length)) ("", 0)
  text ++ "\n"

/-- The lines of a long list. No times are known. -/
def longLines (options : Options) (tree : FileSystem) (all : List (Listed × Location)) :
    List String :=
  let links := all.map fun (listed, location) => Text.Decimal.text (listed.links tree location)
  let sizes := all.map fun (listed, _) => Text.Decimal.text listed.size
  let widest (texts : List String) : Nat := texts.foldl (fun width text => max width text.length) 0
  let party := if options.has 'n' then "0" else "root"
  let owner := if options.has 'g' then "" else party ++ " "
  let group := if options.has 'o' || options.has 'G' then "" else party ++ " "
  ((all.zip links).zip sizes).map fun (((listed, _), link), size) =>
    let kind := if listed.isDirectory then "d" else "-"
    kind ++ modeLetters listed.bits ++ " " ++ padded (widest links) link ++ " " ++ owner ++ group ++
      padded (widest sizes) size ++ " Jan  1 00:00 " ++ shownName options listed

/-- Prints what is listed; of a directory, how much it takes up comes first. -/
def printListed (options : Options) (inDirectory : Bool) (all : List (Listed × Location)) :
    Run Unit := do
  let ordered := inListedOrder options (all.map Prod.fst)
  let located := ordered.filterMap fun listed =>
    all.find? fun entry => entry.1.name = listed.name
  let long := options.has 'l' || options.has 'n' || options.has 'g' || options.has 'o'
  let sized := options.has 's'
  let total := ordered.foldl (fun total listed => total + listed.blocks) 0
  if inDirectory && (long || sized) then
    let _ ← print s!"total {Text.Decimal.text total}\n"
  let blocks := ordered.map fun listed => Text.Decimal.text listed.blocks
  let widest := blocks.foldl (fun width text => max width text.length) 0
  let prefixed (texts : List String) : List String :=
    if sized then (blocks.zip texts).map fun (count, text) => padded widest count ++ " " ++ text
    else texts
  let tree ← files
  let names := prefixed (ordered.map (shownName options))
  if long then
    let _ ← print (String.join ((prefixed (longLines options tree located)).map (· ++ "\n")))
  else if ordered = [] then pure ()
  else if options.has 'm' then
    let _ ← print (withCommas names)
  else if (options.has 'C' || options.has 'x') && !options.has '1' then
    let _ ← print (tabulated names (options.has 'x'))
  else
    let _ ← print (String.join (names.map (· ++ "\n")))

/-- What is in a directory and listed. -/
def listedIn (options : Options) (tree : FileSystem) (location : Location) :
    List (Listed × Location) :=
  let inside := ((tree.children location).filter (isListed options)).filterMap fun name =>
    (tree.get? (location ++ [name])).map fun node => (Listed.mk name node, location ++ [name])
  if options.has 'a' || options.has 'f' then
    (⟨".", .directory⟩, location) :: (⟨"..", .directory⟩, location.dropLast) :: inside
  else inside

/-- A directory and, if asked to, those below it, each with its path. `fuel` bounds the
depth. -/
def directoriesOf (options : Options) (tree : FileSystem) :
    (fuel : Nat) → String → Location → List (String × Location)
  | 0, path, location => [(path, location)]
  | fuel + 1, path, location =>
    let below :=
      if options.has 'R' then
        let inside := (listedIn options tree location).filter fun (listed, _) =>
          listed.isDirectory && listed.name ≠ "." && listed.name ≠ ".."
        (inListedOrder options (inside.map Prod.fst)).flatMap fun listed =>
          directoriesOf options tree fuel (Path.join path listed.name) (location ++ [listed.name])
      else []
    (path, location) :: below

/-- The options of listing. -/
def listGrammar : Grammar where
  flags := "1aAbBcCdfFgGhHiklLmnNopqQrRsStuUvxXZ&"
  valued := "IwT%"
  optional := "#^~"
  long := [("all", 'a'), ("almost-all", 'A'), ("escape", 'b'), ("ignore-backups", 'B'),
    ("directory", 'd'), ("classify", 'F'), ("file-type", 'p'), ("no-group", 'G'),
    ("human-readable", 'h'), ("inode", 'i'), ("ignore", 'I'), ("hide", '%'), ("kibibytes", 'k'),
    ("dereference", 'L'), ("numeric-uid-gid", 'n'), ("literal", 'N'), ("hide-control-chars", 'q'),
    ("quote-name", 'Q'), ("reverse", 'r'), ("recursive", 'R'), ("size", 's'), ("sort", '^'),
    ("indicator-style", '~'), ("color", '#'), ("format", '#'), ("time", '#'),
    ("group-directories-first", '&'), ("width", 'w'), ("tabsize", 'T')]

/-- Lists files and directories. -/
def ls : Utility := withOptions listGrammar 2 fun speaker options => do
  let operands := if options.operands = [] then ["."] else options.operands
  let mut plain : List (Listed × Location) := []
  let mut directories : List (Listed × Location) := []
  let mut status := 0
  for path in operands do
    match (← files).locate path with
    | .error error =>
      complain speaker s!"cannot access '{path}': {error.reason}"
      status := 2
    | .ok (location, node) =>
      if node matches .directory && !options.has 'd' then
        directories := directories ++ [(⟨path, node⟩, location)]
      else plain := plain ++ [(⟨path, node⟩, location)]
  if !plain.isEmpty then printListed options false plain
  let tree ← files
  let ordered := inListedOrder options (directories.map Prod.fst)
  let all := ordered.flatMap fun listed =>
    match directories.find? fun entry => entry.1.name = listed.name with
    | some (_, location) => directoriesOf options tree tree.nodes.length listed.name location
    | none => []
  let mut first := plain.isEmpty
  for (path, location) in all do
    if 1 < operands.length || options.has 'R' then
      let gap := if first then "" else "\n"
      let _ ← print s!"{gap}{path}:\n"
      first := false
    printListed options true (listedIn options tree location)
  return status

end StepGraph.Shell.Utility
