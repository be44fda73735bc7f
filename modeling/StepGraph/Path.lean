/-! Paths as texts. A path is split at its slashes. Empty segments mean nothing,
and neither does a point, unless the path begins with it; what is left are the
components. Taking a path apart keeps the text of what remains as it was
written. -/
namespace StepGraph.Path

/-- The parts of a path between its slashes; the empty path is one empty part. -/
def segments : List Char → List (List Char)
  | [] => [[]]
  | '/' :: rest => [] :: segments rest
  | c :: rest =>
    match segments rest with
    | [] => [[c]]
    | first :: others => (c :: first) :: others

/-- A component of a path. -/
inductive Component
  /-- The slash at the beginning. -/
  | root
  /-- The point at the beginning. -/
  | here
  /-- The directory above. -/
  | above
  | name (name : String)
  deriving DecidableEq

/-- The component that a segment behind the first is, if it is one. -/
def component? (segment : List Char) : Option Component :=
  if segment = [] ∨ segment = ['.'] then none
  else if segment = ['.', '.'] then some .above
  else some (.name (String.ofList segment))

/-- Whether a path starts at the root. -/
def isAbsolute (path : String) : Bool :=
  match path.toList with
  | '/' :: _ => true
  | _ => false

/-- The components of a path, in order. -/
def components (path : String) : List Component :=
  match segments path.toList with
  | [] => []
  | first :: rest =>
    let start : List Component :=
      if isAbsolute path then [.root]
      else if first = ['.'] then [.here]
      else (component? first).toList
    start ++ rest.filterMap component?

/-- A path below another one. An absolute path stands for itself. -/
def join (base below : String) : String :=
  if isAbsolute below then below
  else if base.isEmpty || base.toList.getLast? = some '/' then base ++ below
  else base ++ "/" ++ below

/-- The segments of a path from the last component on are dropped; what is left
ends with the component before it. The first segment has been taken off. -/
def dropMeaningless (segments : List (List Char)) : List (List Char) :=
  segments.dropWhile fun segment => (component? segment).isNone

/-- The text of segments that are given in reverse. -/
def textOf (reversed : List (List Char)) : String :=
  "/".intercalate (reversed.reverse.map String.ofList)

/-- The segments of a path in reverse, from its last component on, and that
component; nothing if the path has none but the root. -/
def last? (path : String) : Option (Component × List (List Char)) :=
  match segments path.toList with
  | [] => none
  | first :: rest =>
    match dropMeaningless rest.reverse with
    | segment :: before => (component? segment).map (·, before ++ [first])
    | [] =>
      if isAbsolute path then none
      else if first = ['.'] then some (.here, [])
      else (component? first).map (·, [])

/-- The path without its last component. -/
def parent? (path : String) : Option String := do
  let (_, before) ← last? path
  match before.reverse with
  | [] => some ""
  | first :: rest =>
    match dropMeaningless rest.reverse with
    | [] => some (if isAbsolute path then "/" else String.ofList first)
    | kept => some (textOf (kept ++ [first]))

/-- The name at the end of a path, if it ends with one. -/
def fileName? (path : String) : Option String := do
  match ← last? path with
  | (.name name, _) => some name
  | _ => none

/-- The path with another name at its end. -/
def withFileName (path name : String) : String :=
  match fileName? path, parent? path with
  | some _, some parent => join parent name
  | _, _ => join path name

/-- What stands behind the last point of the name at the end of a path. A point
at the beginning of the name does not count. -/
def extension? (path : String) : Option String := do
  let name ← fileName? path
  let reversed := name.toList.reverse
  match reversed.dropWhile (· != '.') with
  | [] => none
  | [_] => none
  | _ :: _ => some (String.ofList (reversed.takeWhile (· != '.')).reverse)

end StepGraph.Path
