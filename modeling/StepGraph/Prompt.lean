import StepGraph.Context

/-! Prompts: the context of a step as one text for a model. The entries are
grouped into sections by their kinds, and each section that has entries gets a
heading. A prompt has a budget of bytes. One that does not fit loses the oldest
entries of the history, one by one; then the static context, the outermost
first; and what still does not fit is cut. -/
namespace StepGraph

/-- A context, grouped for rendering. -/
structure Sections where
  persona : List String
  instructions : List String
  settings : List String
  /-- Keys and values. -/
  staticContext : List (String × String)
  history : Payload
  /-- Paths and contents. -/
  artifacts : List (String × String)
  /-- Keys and values. -/
  metadata : List (String × String)
  deriving DecidableEq

namespace Sections

/-- What an id says behind its first part, if it has that first part. -/
def behind (start : String) (id : String) : String :=
  if start.toList.isPrefixOf id.toList then String.ofList (id.toList.drop start.length) else id

/-- Sections without entries. -/
def none : Sections := ⟨[], [], [], [], [], [], []⟩

/-- Puts an entry in front of the section of its kind. What is of no kind that has a section of
its own belongs to the history. -/
def add (entry : Entry) (sections : Sections) : Sections :=
  if entry.kind = Kind.persona then
    { sections with persona := entry.content :: sections.persona }
  else if entry.kind = Kind.instructions then
    { sections with instructions := entry.content :: sections.instructions }
  else if entry.kind = Kind.settings then
    { sections with settings := entry.content :: sections.settings }
  else if entry.kind = Kind.staticContext then
    { sections with
      staticContext := (behind "static:" entry.id, entry.content) :: sections.staticContext }
  else if entry.kind = Kind.artifact then
    { sections with
      artifacts := (behind "artifact:" entry.id, entry.content) :: sections.artifacts }
  else if entry.kind = Kind.metadata then
    { sections with metadata := (behind "meta:" entry.id, entry.content) :: sections.metadata }
  else { sections with history := entry :: sections.history }

/-- Groups a context, entry by entry. -/
def ofContext (context : Payload) : Sections := context.foldr add none

/-- The step that the metadata names. -/
def stepId (sections : Sections) : String :=
  ((sections.metadata.find? (·.1 = "step_id")).map Prod.snd).getD "unknown"

/-! ## Rendering -/

/-- A section under its heading, unless it is empty. -/
def block {α : Type} (heading : String) (item : α → String) (items : List α) : String :=
  if items.isEmpty then "\n"
  else "\n## " ++ heading ++ "\n\n" ++ String.join (items.map item) ++ "\n"

/-- A text on a line of its own. -/
def line (text : String) : String := text ++ "\n"

/-- One part of the static context. -/
def staticLine (item : String × String) : String := "- **" ++ item.1 ++ "**: " ++ item.2 ++ "\n"

/-- One entry of the history. -/
def historyItem (entry : Entry) : String :=
  "### " ++ entry.kind ++ " `" ++ entry.id ++ "`\n\n" ++ entry.content ++ "\n\n"

/-- The content of a file; of an empty one there is only a notice. -/
def fileBody (content : String) : String :=
  if content.isEmpty then "(empty or not created yet)" else "```\n" ++ content ++ "\n```"

/-- One file. -/
def fileItem (file : String × String) : String :=
  "### " ++ file.1 ++ "\n\n" ++ fileBody file.2 ++ "\n\n"

/-- One fact about the run. -/
def metadataLine (item : String × String) : String := "- " ++ item.1 ++ ": " ++ item.2 ++ "\n"

/-- How to answer. -/
def outputContract (outcomes : List String) : String :=
  "## Output contract\n\n" ++
  "Work inside the current directory. When you are done, reply with a JSON object\n" ++
  "`\x7b\"outcome\": \"...\", \"summary\": \"...\"\x7d` where `outcome` is one of: " ++
  ", ".intercalate outcomes ++ ".\n\n"

/-- The whole prompt. -/
def render (sections : Sections) (outcomes : List String) : String :=
  "# Step " ++ sections.stepId ++ "\n" ++
  block "Role" line sections.persona ++
  block "Task" line sections.instructions ++
  block "Executor settings" line sections.settings ++
  block "Project context" staticLine sections.staticContext ++
  block "History" historyItem sections.history ++
  block "Files" fileItem sections.artifacts ++
  outputContract outcomes ++
  "## Run\n\n" ++
  String.join (sections.metadata.map metadataLine)

end Sections

/-! ## The budget -/
namespace Prompt

/-- Stands where a prompt was cut. -/
def notice : String := "\n[truncated]"

/-- The longest beginning of whole characters that has at most `budget` bytes. -/
def takeBytes : (budget : Nat) → List Char → List Char
  | _, [] => []
  | budget, c :: rest =>
    if c.utf8Size ≤ budget then c :: takeBytes (budget - c.utf8Size) rest else []

/-- A text that does not fit, cut to the budget. The notice goes behind the cut
if it is shorter than the budget. -/
def truncate (text : String) (budget : Nat) : String :=
  if budget ≤ notice.utf8ByteSize then String.ofList (takeBytes budget text.toList)
  else String.ofList (takeBytes (budget - notice.utf8ByteSize) text.toList) ++ notice

/-- The prompt of what is left of the sections when they fit the budget, or when
nothing is left to drop. -/
def fit (budget : Nat) (outcomes : List String) (sections : Sections) : String :=
  let rendered := sections.render outcomes
  if rendered.utf8ByteSize ≤ budget then rendered
  else
    match _held : sections.history with
    | _ :: later => fit budget outcomes { sections with history := later }
    | [] =>
      if _none : sections.staticContext = [] then truncate rendered budget
      else fit budget outcomes { sections with staticContext := sections.staticContext.dropLast }
termination_by sections.history.length + sections.staticContext.length
decreasing_by
  · simp [_held]
  · have := List.length_pos_iff.mpr _none
    simp only [List.length_dropLast]
    omega

/-- The prompt of a context for a model that may answer with `outcomes`. -/
def build (budget : Nat) (context : Payload) (outcomes : List String) : String :=
  fit budget outcomes (Sections.ofContext context)

end Prompt
end StepGraph
