import StepGraph.Proofs.Data
import StepGraph.Proofs.Json.RoundTrip
import StepGraph.Proofs.Manifest.Names

/-! A manifest reads back from its JSON text. What a step leaves out when it is empty is what a
reader puts where nothing is said, operations come back under their names, and the order of steps
and of static context is that of the text. Every manifest whose names form ids is therefore loaded
from a file that holds its text. -/
namespace StepGraph

open Data (Field)

namespace PlanOp

private theorem countField?_record (count : UInt64) :
    ofData?.countField? (.record [("count", .natural count.toNat)]) = some count := by
  have fields : (Data.record [("count", .natural count.toNat)]).fields? ["count"] =
      some [.given (.natural count.toNat)] := rfl
  simp [ofData?.countField?, fields, Field.required, Data.limit?_natural]

private theorem kindsField?_record (kinds : List String) :
    ofData?.kindsField? (.record [("kinds", .list (kinds.map .text))]) = some kinds := by
  have fields : (Data.record [("kinds", .list (kinds.map .text))]).fields? ["kinds"] =
      some [.given (.list (kinds.map .text))] := rfl
  have texts : Data.list? Data.text? (.list (kinds.map .text)) = some kinds :=
    Data.list?_map fun _ _ => rfl
  simp [ofData?.kindsField?, fields, Field.required, texts]

private theorem tagged?_kinds (name : String) (kinds : List String) :
    (Data.record [("op", .text name), ("kinds", .list (kinds.map .text))]).tagged? "op" =
      some (name, .record [("kinds", .list (kinds.map .text))]) := by
  refine Data.tagged?_record ?_ ?_ (by simp)
  · simp [Data.haveReadable, Data.isReadable, Data.areReadable_texts]
  · simp [Data.closedFields, Data.closed, Data.closedItems_texts]

/-- An operation reads back, with its field or without one. -/
theorem ofData?_toData (op : PlanOp) : ofData? op.toData = some op := by
  cases op with
  | first count => exact congrArg (Option.map first) (countField?_record count)
  | last count => exact congrArg (Option.map last) (countField?_record count)
  | includeKinds kinds => simp [ofData?, toData, tagged?_kinds, kindsField?_record]
  | excludeKinds kinds => simp [ofData?, toData, tagged?_kinds, kindsField?_record]
  | dedupe => rfl
  | reverse => rfl

end PlanOp

theorem Transition.ofData?_toData (transition : Transition) :
    Transition.ofData? transition.toData = some transition := rfl

namespace Step

/-- A list that is left out when it is empty reads back from a field that is empty where nothing
is said. -/
theorem withDefault_nonEmpty {α : Type} {item? : Data → Option α} {make : α → Data}
    {items : List α} (back : ∀ item ∈ items, item? (make item) = some item) :
    (Field.ofOption (toData.nonEmpty (items.map make))).withDefault [] (Data.list? item?) =
      some items := by
  cases items with
  | nil => rfl
  | cons item rest => exact Data.list?_map back

/-- A step reads back: what it leaves out is empty. -/
theorem ofData?_toData (step : Step) : ofData? step.toData = some step := by
  have instructions : (Field.ofOption (step.instructions.map .text)).withDefault none
      (Data.nullable? Data.text?) = some step.instructions :=
    Data.Field.withDefault_ofOption fun _ _ => rfl
  have plan := withDefault_nonEmpty fun op (_ : op ∈ step.plan) => op.ofData?_toData
  have artifacts : (Field.ofOption (toData.nonEmpty (step.artifacts.map .text))).withDefault []
      (Data.list? Data.text?) = some step.artifacts :=
    withDefault_nonEmpty fun _ _ => rfl
  have transitions : (Field.given (.list (step.transitions.map Transition.toData))).withDefault []
      (Data.list? Transition.ofData?) = some step.transitions :=
    Data.list?_map fun transition _ => transition.ofData?_toData
  have fields : step.toData.fields?
      ["executor", "instructions", "payload_plan", "artifacts", "transitions"] =
      some [.given (.text step.executor), .ofOption (step.instructions.map .text),
        .ofOption (toData.nonEmpty (step.plan.map PlanOp.toData)),
        .ofOption (toData.nonEmpty (step.artifacts.map .text)),
        .given (.list (step.transitions.map Transition.toData))] :=
    Data.fields?_present rfl (by decide)
  simp [ofData?, fields, Field.required, Data.text?, instructions, plan, artifacts, transitions]

end Step

theorem OrderedMap.orderedMap?_toData (map : OrderedMap String) :
    Data.orderedMap? Data.text? map.toData = some map :=
  Data.orderedMap?_record fun _ _ => rfl

private theorem Group.ofData?_toData (group : Group) : ofData? group.toData = some group := by
  have staticContext := group.staticContext.orderedMap?_toData
  have steps : Data.orderedMap? Step.ofData?
      (.record (group.steps.entries.map fun entry => (entry.1, entry.2.toData))) =
        some group.steps :=
    Data.orderedMap?_record fun entry _ => entry.2.ofData?_toData
  have fields : group.toData.fields? ["entry_step", "inherits_context", "static_context", "steps"] =
      some [.given (.text group.entryStep), .given (.bool group.inherits),
        .given group.staticContext.toData,
        .given (.record (group.steps.entries.map fun entry => (entry.1, entry.2.toData)))] := rfl
  simp [ofData?, fields, Field.required, Field.withDefault, Data.text?, Data.bool?, staticContext,
    steps]

/-- A manifest is what its data describes. -/
theorem Manifest.ofData?_toData (manifest : Manifest) : ofData? manifest.toData = some manifest := by
  have groups : Data.sortedMap? Group.ofData? manifest.toData = some manifest.groups :=
    Data.sortedMap?_record fun entry _ => entry.2.ofData?_toData
  rw [ofData?, groups, Option.map_some]

namespace Json

variable {depth : Nat}

private theorem fits_texts (texts : List String) (shallow : depth < nestingLimit) :
    Fits depth (.list (texts.map .text)) :=
  ⟨shallow, fitAll_map fun _ _ => trivial⟩

private theorem fits_operation (op : PlanOp) (shallow : depth + 1 < nestingLimit) :
    Fits depth op.toData := by
  cases op with
  | first count => exact ⟨by omega, trivial, count.toNat_lt, trivial⟩
  | last count => exact ⟨by omega, trivial, count.toNat_lt, trivial⟩
  | includeKinds kinds => exact ⟨by omega, trivial, fits_texts kinds shallow, trivial⟩
  | excludeKinds kinds => exact ⟨by omega, trivial, fits_texts kinds shallow, trivial⟩
  | dedupe => exact ⟨by omega, trivial, trivial⟩
  | reverse => exact ⟨by omega, trivial, trivial⟩

/-- A record fits when the fields fit that are not left out. -/
theorem fits_present {entries : List (String × Option Data)} (shallow : depth < nestingLimit)
    (fits : ∀ entry ∈ entries, ∀ value, entry.2 = some value → Fits (depth + 1) value) :
    Fits depth (Data.present entries) := by
  refine ⟨shallow, fitFields_of_forall fun field member => ?_⟩
  exact fits _ (Data.mem_presentFields.mp member) _ rfl

private theorem fits_step (step : Step) (shallow : depth + 3 < nestingLimit) :
    Fits depth step.toData := by
  have nonEmpty {items : List Data} (fits : FitAll (depth + 2) items) {value : Data}
      (given : Step.toData.nonEmpty items = some value) : Fits (depth + 1) value := by
    obtain ⟨_, same⟩ := Option.ite_none_left_eq_some.mp given
    cases same
    exact ⟨by omega, fits⟩
  refine fits_present (by omega) ?_
  simp only [List.forall_mem_cons, Option.some.injEq, Option.map_eq_some_iff]
  refine ⟨?_, ?_, ?_, ?_, ?_, nofun⟩
  · rintro _ rfl
    trivial
  · rintro _ ⟨text, _, rfl⟩
    trivial
  · exact fun _ => nonEmpty (fitAll_map fun op _ => fits_operation op (by omega))
  · have texts : FitAll (depth + 2) (step.artifacts.map .text) := fitAll_map fun _ _ => trivial
    exact fun _ => nonEmpty texts
  · rintro _ rfl
    exact ⟨by omega, fitAll_map fun _ _ => ⟨by omega, trivial, trivial, trivial⟩⟩

private theorem fits_manifest (manifest : Manifest) : Fits 1 manifest.toData := by
  have group (group : Group) : Fits 2 group.toData := by
    refine ⟨by decide, trivial, trivial, ⟨by decide, fitFields_of_forall ?_⟩,
      ⟨by decide, fitFields_of_forall ?_⟩, trivial⟩
    · simp only [List.forall_mem_map]
      exact fun _ _ => trivial
    · simp only [List.forall_mem_map]
      exact fun entry _ => fits_step entry.2 (by decide)
  refine ⟨by decide, fitFields_of_forall ?_⟩
  simp only [List.forall_mem_map]
  exact fun entry _ => group entry.2

end Json

namespace Manifest

variable {manifest : Manifest} {path ending : String} {files stored : FileSystem}

/-- The text of a manifest's JSON file, up to the blanks that end it. -/
def jsonText (manifest : Manifest) (ending : String) : String :=
  Json.pretty manifest.toData ++ ending

private theorem ofText_jsonText (blank : Json.Blank ending.toList) :
    ofText .json (manifest.jsonText ending) = .ok manifest := by
  rw [ofText, jsonText, Json.parse?_pretty_append (Json.fits_manifest manifest) blank,
    Option.bind_some, ofData?_toData]

/-- A manifest whose names form ids is loaded from a file that holds its text. -/
theorem load_of_read (named : manifest.validateNames = .ok ())
    (format : Format.ofPath? path = some .json) (blank : Json.Blank ending.toList)
    (held : files.read path = .ok (manifest.jsonText ending).toUTF8) :
    load files path = .ok manifest :=
  have text := FileSystem.readText_of_read held
  load_eq_ok_iff.mpr ⟨⟨_, .json, text, format, ofText_jsonText blank⟩, named⟩

/-- A manifest whose names form ids survives its file: once its JSON text has been written under a
name that says so, at one stroke or in place, the manifest that is loaded from there is the same,
with its steps and its static context in their order. -/
theorem manifests_survive_files (named : manifest.validateNames = .ok ())
    (format : Format.ofPath? path = some .json) (blank : Json.Blank ending.toList)
    (written : files.write path (manifest.jsonText ending).toUTF8 = .ok stored ∨
      Disk.sound.replace path (manifest.jsonText ending).toUTF8 files = (.ok (), stored)) :
    load stored path = .ok manifest := by
  refine load_of_read named format blank ?_
  rcases written with wrote | replaced
  · exact FileSystem.read_of_write wrote
  · exact FileSystem.read_of_replace replaced

/-- A group whose static context and steps are declared against the order of their names, and
whose step `B` selects from the history by its number and by its kinds. -/
def assorted : Manifest where
  groups := .ofList [("Main", {
    entryStep := "B"
    inherits := false
    staticContext := .ofList [("tone", "plain"), ("goal", "\"ship\" it")]
    steps := .ofList [
      ("B", ⟨"tool", some "Look.", [.last 2, .includeKinds ["task"], .dedupe], ["notes"],
        [⟨"SUCCESS", "JUMP:Main__A"⟩]⟩),
      ("A", ⟨"tool", none, [], [], []⟩)] })]

/-- The files once its text has been written. -/
def assortedFiles : FileSystem :=
  (FileSystem.fresh ["work"]).put ["work", "flow.json"]
    (.file (assorted.jsonText "\n").toUTF8 .plain)

theorem assorted_survives :
    assorted.validateNames = .ok () ∧ Format.ofPath? "/work/flow.json" = some .json ∧
      (FileSystem.fresh ["work"]).write "/work/flow.json" (assorted.jsonText "\n").toUTF8 =
        .ok assortedFiles ∧
      load assortedFiles "/work/flow.json" = .ok assorted := by
  have named : assorted.validateNames = .ok () := by decide
  have format : Format.ofPath? "/work/flow.json" = some .json := by decide
  have written : (FileSystem.fresh ["work"]).write "/work/flow.json"
      (assorted.jsonText "\n").toUTF8 = .ok assortedFiles := rfl
  exact ⟨named, format, written,
    manifests_survive_files named format Json.blank_lineBreak (.inl written)⟩

end Manifest
end StepGraph
