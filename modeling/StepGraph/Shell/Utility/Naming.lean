import StepGraph.Shell.Utility.Listing
import StepGraph.Shell.Utility.Making

/-! Utilities that say something about paths, and about what they lead to. -/
namespace StepGraph.Shell.Utility
open Run

/-! ## Parts of paths -/

/-- A name without an ending, unless it is the ending. -/
def withoutEnding (ending name : String) : String :=
  if ending ≠ name && name.endsWith ending then
    String.ofList (name.toList.take (name.length - ending.length))
  else name

/-- Prints the last names of paths, without an ending. -/
def basename : Utility :=
  let grammar : Grammar := {
    flags := "az", valued := "s", inFront := true
    long := [("multiple", 'a'), ("suffix", 's'), ("zero", 'z')] }
  withOptions grammar 1 fun speaker options => do
    let behind := if options.has 'z' then "\x00" else "\n"
    let say (ending path : String) : Run Nat := do
      let _ ← print (withoutEnding ending (lastName path) ++ behind)
      return 0
    if options.operands = [] then return ← misuse speaker "missing operand" 1
    if options.has 'a' || options.has 's' then
      forEach options.operands (say ((options.value? 's').getD ""))
    else
      match options.operands with
      | _ :: _ :: extra :: _ => misuse speaker s!"extra operand '{extra}'" 1
      | path :: rest => say (rest.headD "") path
      | [] => return 1

/-- Prints paths without their last names. -/
def dirname : Utility :=
  withOptions { flags := "z", long := [("zero", 'z')] } 1 fun speaker options => do
    if options.operands = [] then return ← misuse speaker "missing operand" 1
    forEach options.operands fun path => do
      let above := (path.toList.reverse.dropWhile (· = '/')).dropWhile (· ≠ '/')
      let kept := (above.dropWhile (· = '/')).reverse
      let shown := if kept ≠ [] then String.ofList kept
        else if path.toList.head? = some '/' then "/" else "."
      let _ ← print (shown ++ if options.has 'z' then "\x00" else "\n")
      return 0

/-- Prints the directory that the process works in. -/
def pwd : Utility := fun _ _ => do
  let _ ← print (FileSystem.absoluteText (← files).cwd ++ "\n")
  return 0

/-! ## Where paths lead -/

/-- What has to be there for a path to lead somewhere. -/
inductive Presence
  | everything
  | allButLast
  | nothing
  deriving DecidableEq

/-- The location at the end of a path. -/
def locationOf (tree : FileSystem) (presence : Presence) (path : String) :
    Except IoError Location := do
  match presence with
  | .everything => return (← tree.locate path).1
  | .allButLast =>
    let route ← tree.route path
    let location ← route.location tree
    match tree.get? location with
    | some (.file ..) => if route.endsWithSlash then throw .notADirectory else return location
    | _ => return location
  | .nothing =>
    let route ← tree.route path
    return (route.above ++ route.last.toList).foldl (fun location name =>
      if name = "." then location else if name = ".." then location.dropLast
      else location ++ [name]) route.start

/-- The path that leads from one location to another. -/
def relativePath (base location : Location) : String :=
  let shared := ((base.zip location).takeWhile fun (first, second) => first = second).length
  let names := List.replicate (base.length - shared) ".." ++ location.drop shared
  if names = [] then "." else "/".intercalate names

/-- Prints where paths lead. -/
def realpath : Utility :=
  let grammar : Grammar := {
    flags := "emsqzLP"
    valued := "@%"
    long := [("canonicalize-existing", 'e'), ("canonicalize-missing", 'm'), ("strip", 's'),
      ("no-symlinks", 's'), ("quiet", 'q'), ("zero", 'z'), ("relative-to", '@'),
      ("relative-base", '%')] }
  withOptions grammar 1 fun speaker options => do
    if options.operands = [] then return ← misuse speaker "missing operand" 1
    let presence : Presence := if options.has 'e' then .everything
      else if options.has 'm' then .nothing else .allButLast
    let tree ← files
    let base := (options.value? '@').bind fun path => (locationOf tree presence path).toOption
    forEach options.operands fun path => do
      match locationOf tree presence path with
      | .error error =>
        if !options.has 'q' then complain speaker s!"{path}: {error.reason}"
        return 1
      | .ok location =>
        let shown := match base with
          | some base => relativePath base location
          | none => FileSystem.absoluteText location
        let _ ← print (shown ++ if options.has 'z' then "\x00" else "\n")
        return 0

/-- Prints where links lead, of which there are none, or where paths lead. -/
def readlink : Utility :=
  let grammar : Grammar := {
    flags := "femnqsvz"
    long := [("canonicalize", 'f'), ("canonicalize-existing", 'e'), ("canonicalize-missing", 'm'),
      ("no-newline", 'n'), ("quiet", 'q'), ("silent", 's'), ("verbose", 'v'), ("zero", 'z')] }
  withOptions grammar 1 fun speaker options => do
    if options.operands = [] then return ← misuse speaker "missing operand" 1
    let presence? : Option Presence := if options.has 'e' then some .everything
      else if options.has 'm' then some .nothing
      else if options.has 'f' then some .allButLast else none
    let tree ← files
    forEach options.operands fun path => do
      match presence?.map fun presence => locationOf tree presence path with
      | some (.ok location) =>
        let behind := if options.has 'z' then "\x00" else if options.has 'n' then "" else "\n"
        let _ ← print (FileSystem.absoluteText location ++ behind)
        return 0
      | some (.error error) =>
        if options.has 'v' then complain speaker s!"{path}: {error.reason}"
        return 1
      | none =>
        if options.has 'v' then
          let reason := if tree.exists? path then "Invalid argument" else IoError.notFound.reason
          complain speaker s!"{path}: {reason}"
        return 1

/-- Prints where programs are found. -/
def which : Utility := withOptions { flags := "as" } 2 fun _ options => do
  let tree ← files
  let search := (((← valueOf? "PATH").getD "").splitOn ":").map fun directory =>
    if directory = "" then "." else directory
  let mayRun (path : String) : Bool := match tree.locate path with
    | .ok (_, .file _ mode) => mode.mayRun
    | _ => false
  let statuses ← options.operands.mapM fun name => do
    let candidates := if name.toList.contains '/' then [name] else search.map (Path.join · name)
    let found := candidates.filter mayRun
    let shown := if options.has 'a' then found else found.take 1
    if !options.has 's' then
      for path in shown do
        let _ ← print (path ++ "\n")
    return found.isEmpty
  return if statuses = [] || statuses.contains true then 1 else 0

/-! ## What paths lead to -/

/-- What is known of a file or a directory, by the letter of a format. -/
def statField (listed : Listed) (tree : FileSystem) (location : Location) (letter : Char) : String :=
  let number (n : Nat) : String := Text.Decimal.text n
  let octal (n : Nat) : String := String.ofList (Nat.toDigits 8 n)
  let kind := if listed.isDirectory then "d" else "-"
  let typeBits := if listed.isDirectory then 0x4000 else 0x8000
  match letter with
  | 'n' => listed.name
  | 'N' => s!"'{listed.name}'"
  | 's' => number listed.size
  | 'b' => number (listed.blocks * 2)
  | 'B' => "512"
  | 'o' => "4096"
  | 'a' => octal listed.bits
  | 'A' => kind ++ modeLetters listed.bits
  | 'f' => String.ofList (Text.Hex.digits (typeBits + listed.bits))
  | 'F' =>
    if listed.isDirectory then "directory"
    else if listed.size = 0 then "regular empty file" else "regular file"
  | 'h' => number (listed.links tree location)
  | 'u' | 'g' => "0"
  | 'U' | 'G' => "root"
  | 'm' => "/"
  | 't' | 'T' => "0"
  | '%' => "%"
  | _ => "?"

/-- A format with what is known in the place of its directives. With `escapes`, those of
characters are replaced as well. -/
def statText (field : Char → String) (escapes : Bool) : (fuel : Nat) → List Char → String
  | 0, _ => ""
  | _, [] => ""
  | fuel + 1, '%' :: rest =>
    let width := rest.takeWhile fun c => Text.Decimal.isDigit c || c = '-'
    match rest.drop width.length with
    | letter :: rest =>
      let text := field letter
      let count := Text.Decimal.value (width.filter Text.Decimal.isDigit)
      let padding := "".pushn ' ' (count - text.length)
      let shown := if width.head? = some '-' then text ++ padding else padding ++ text
      shown ++ statText field escapes fuel rest
    | [] => "%"
  | fuel + 1, c :: rest =>
    let next := match escapes, c, rest with
      | true, '\\', 'n' :: rest => ("\n", rest)
      | true, '\\', 't' :: rest => ("\t", rest)
      | true, '\\', d :: rest => (d.toString, rest)
      | _, c, rest => (c.toString, rest)
    next.1 ++ statText field escapes fuel next.2

/-- Prints what is known of files and directories. -/
def stat : Utility :=
  let grammar : Grammar := {
    flags := "Lft", valued := "c@"
    long := [("format", 'c'), ("printf", '@'), ("dereference", 'L'), ("file-system", 'f'),
      ("terse", 't')] }
  withOptions grammar 1 fun speaker options => do
    if options.operands = [] then return ← misuse speaker "missing operand" 1
    let (format, escapes) := match options.value? 'c', options.value? '@' with
      | some format, _ => (format ++ "\n", false)
      | none, some format => (format, true)
      | none, none => ("  File: %n\n  Size: %s\n", false)
    forEach options.operands fun path => do
      let tree ← files
      match tree.locate path with
      | .error error =>
        complain speaker s!"cannot statx '{path}': {error.reason}"
        return 1
      | .ok (location, node) =>
        let field := statField ⟨path, node⟩ tree location
        let _ ← print (statText field escapes (format.length + 1) format.toList)
        return 0

end StepGraph.Shell.Utility
