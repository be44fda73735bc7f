import StepGraph.Data

/-! Step ids. A step is named by its group and its own name, written as one text
with two underscores between them. Reading splits at the first such separator;
not every pair of names can be read back from its text, and `ofParts` accepts
exactly the pairs that can. -/
namespace StepGraph

/-- A step of a group. Ids that come from texts or from `StepId.ofParts` have
names that read back; the pair itself promises nothing. -/
structure StepId where
  group : String
  step : String
  deriving DecidableEq

namespace StepId

/-- The id as one text. -/
def text (id : StepId) : String := id.group ++ "__" ++ id.step

/-- Why a text or a pair of names is no id. -/
inductive Defect
  | noSeparator
  | emptyGroup
  | emptyStep
  | repeatedSeparator
  | separatorInName
  | ambiguousText
  deriving DecidableEq

/-- A defect in words. -/
def Defect.message : Defect → String
  | .noSeparator => "missing '__' separator"
  | .emptyGroup => "empty group name"
  | .emptyStep => "empty step name"
  | .repeatedSeparator => "more than one '__' separator"
  | .separatorInName => "name contains the '__' separator"
  | .ambiguousText => "name does not round-trip through the '__' separator"

/-- A text that is no id, and why. -/
structure Invalid where
  raw : String
  defect : Defect
  deriving DecidableEq

/-- What to tell about a text that is no id. -/
def Invalid.message (invalid : Invalid) : String :=
  s!"invalid step id '{invalid.raw}': {invalid.defect.message}"

/-- What stands before and after the first separator. -/
def halves? : List Char → Option (List Char × List Char)
  | [] => none
  | '_' :: '_' :: rest => some ([], rest)
  | c :: rest => (halves? rest).map fun halves => (c :: halves.1, halves.2)

/-- Whether a separator stands somewhere in a name. -/
def hasSeparator (name : String) : Bool := (halves? name.toList).isSome

/-- Reads an id from its text. -/
def parse (raw : String) : Except Invalid StepId :=
  match halves? raw.toList with
  | none => .error ⟨raw, .noSeparator⟩
  | some (group, step) =>
    if group.isEmpty then .error ⟨raw, .emptyGroup⟩
    else if step.isEmpty then .error ⟨raw, .emptyStep⟩
    else if (halves? step).isSome then .error ⟨raw, .repeatedSeparator⟩
    else .ok ⟨String.ofList group, String.ofList step⟩

/-- Whether the text of the id reads back as the same id. -/
def readsBack (id : StepId) : Bool :=
  match parse id.text with
  | .ok read => read = id
  | .error _ => false

/-- The id of a step of a group, if its text reads back. -/
def ofParts (group step : String) : Except Invalid StepId :=
  let id : StepId := ⟨group, step⟩
  if group.isEmpty then .error ⟨id.text, .emptyGroup⟩
  else if step.isEmpty then .error ⟨id.text, .emptyStep⟩
  else if hasSeparator group || hasSeparator step then .error ⟨id.text, .separatorInName⟩
  else if id.readsBack then .ok id
  else .error ⟨id.text, .ambiguousText⟩

/-- Ids are ordered by group and, within a group, by step. -/
def before (a b : StepId) : Bool := a.group < b.group || (a.group = b.group && a.step < b.step)

/-- Puts an id into its place in an ordered list, unless it is there. -/
def insertSorted (id : StepId) : List StepId → List StepId
  | [] => [id]
  | head :: rest =>
    if id.before head then id :: head :: rest
    else if id = head then head :: rest
    else head :: insertSorted id rest

/-- The different ids of a list, in order. -/
def sortDistinct (ids : List StepId) : List StepId :=
  ids.foldl (fun sorted id => insertSorted id sorted) []

/-- Reads an id from data, where it is a text. -/
def ofData? (data : Data) : Option StepId := do (parse (← data.text?)).toOption

/-- An id as data. -/
def toData (id : StepId) : Data := .text id.text

end StepId
end StepGraph
