import StepGraph.Data

/-! The tree that a TOML document builds. Tables come about in three ways: by
their own header, as the path to another table's header, and by a dotted key.
Which of them a later line may extend depends on that, so tables remember it. A
table that was only a path so far may still get a header of its own; it then
stands behind the tables that came before that header. -/
namespace StepGraph.Toml

/-- How a table came about. -/
inductive Origin
  | header
  | path
  | dottedKey
  deriving DecidableEq

/-- A part of a document. -/
inductive Node
  /-- A finished value, which no later line extends. -/
  | value (data : Data)
  | table (origin : Origin) (entries : List (String × Node))
  /-- Tables that share one header. -/
  | tables (elements : List (List (String × Node)))

/-- The entries of a table. -/
abbrev Entries := List (String × Node)

mutual

/-- What a part of a document says. -/
def Node.toData : Node → Data
  | .value data => data
  | .table _ entries => .record (entriesToData entries)
  | .tables elements => .openList (elementsToData elements)

/-- What the entries of a table say. -/
def entriesToData : List (String × Node) → List (String × Data)
  | [] => []
  | (name, node) :: rest => (name, node.toData) :: entriesToData rest

/-- What tables that share a header say. -/
def elementsToData : List (List (String × Node)) → List Data
  | [] => []
  | entries :: rest => .record (entriesToData entries) :: elementsToData rest

end

/-- The node of that name. -/
def lookup (entries : Entries) (name : String) : Option Node :=
  (entries.find? (·.1 = name)).map Prod.snd

/-- Puts a node in the place of the one of that name, or at the end. -/
def assign (name : String) (node : Node) : Entries → Entries
  | [] => [(name, node)]
  | entry :: rest =>
    if entry.1 = name then (name, node) :: rest else entry :: assign name node rest

/-- Puts a list in the place of the last element, if there is one. -/
def updateLast? (update : Entries → Option Entries) : List Entries → Option (List Entries)
  | [] => none
  | [last] => (update last).map ([·])
  | element :: next :: rest => (updateLast? update (next :: rest)).map (element :: ·)

/-- Changes the table at the end of a path, and creates the tables on the way
that do not exist. `dotted` says whether the path stands in a key or in a
header: a key does not enter a table that has a header. -/
def updateAt? (dotted : Bool) (update : Origin → Entries → Option Entries) :
    List String → Origin → Entries → Option Entries
  | [], origin, entries => update origin entries
  | name :: rest, _, entries =>
    match lookup entries name with
    | none =>
      let origin := if dotted then Origin.dottedKey else .path
      (updateAt? dotted update rest origin []).map fun created =>
        entries ++ [(name, .table origin created)]
    | some (.value _) => none
    | some (.table origin inner) =>
      if dotted && origin = .header then none
      else
        (updateAt? dotted update rest origin inner).map fun updated =>
          assign name (.table origin updated) entries
    | some (.tables elements) =>
      (updateLast? (updateAt? dotted update rest .header) elements).map fun updated =>
        assign name (.tables updated) entries

/-- Adds a value under a dotted key to a table. No key is set twice, and a table
takes either dotted keys from outside or keys of its own. -/
def insertValue? (path : List String) (name : String) (data : Data) (entries : Entries) :
    Option Entries :=
  updateAt? true (fun origin inner =>
    if (origin = .dottedKey) = path.isEmpty then none
    else if (lookup inner name).isSome then none
    else some (inner ++ [(name, .value data)])) path .header entries

/-- A header of a table, or of one of several tables. -/
structure Header where
  path : List String
  name : String
  isElement : Bool

/-- A document under construction. -/
structure Builder where
  /-- The tables that are finished. -/
  root : Entries
  /-- The header of the table under construction; at first the root itself is. -/
  header : Option Header
  /-- The entries of the table under construction. -/
  current : Entries

namespace Builder

/-- The empty document. -/
def empty : Builder := ⟨[], none, []⟩

/-- Finishes the table under construction. -/
def finish? (builder : Builder) : Option Entries :=
  match builder.header with
  | none => some builder.current
  | some header =>
    updateAt? false (fun _ parent =>
      match lookup parent header.name with
      | none =>
        let node :=
          if header.isElement then Node.tables [builder.current]
          else .table .header builder.current
        some (parent ++ [(header.name, node)])
      | some (.tables elements) =>
        if header.isElement then
          some (assign header.name (.tables (elements ++ [builder.current])) parent)
        else none
      | some _ => none) header.path .header builder.root

/-- Begins the table of a header. A table that was a path so far keeps what is
in it and moves to the end. -/
def begin? (builder : Builder) (header : Header) : Option Builder := do
  let root ← builder.finish?
  if header.isElement then some ⟨root, some header, []⟩
  else
    let found := (updateAt? false (fun _ parent =>
      match lookup parent header.name with
      | none => some parent
      | some (.table .path _) => some (parent.filter (·.1 ≠ header.name))
      | some _ => none) header.path .header root)
    let kept ← found
    some ⟨kept, some header, (inside? header.path root).getD []⟩
where
  /-- The entries of the table that the header names, as far as it exists. -/
  inside? : List String → Entries → Option Entries
    | [], entries =>
      match lookup entries header.name with
      | some (.table _ inner) => some inner
      | _ => none
    | name :: rest, entries =>
      match lookup entries name with
      | some (.table _ inner) => inside? rest inner
      | some (.tables elements) => elements.getLast?.bind (inside? rest)
      | _ => none

/-- Adds a value under a dotted key to the table under construction. -/
def insert? (builder : Builder) (path : List String) (name : String) (data : Data) :
    Option Builder :=
  (insertValue? path name data builder.current).map fun current => { builder with current }

end Builder
end StepGraph.Toml
