import StepGraph.Config.Store
import StepGraph.Proofs.FileSystem.Replace
import StepGraph.Proofs.Manifest.Codec
import StepGraph.Proofs.Toml.Reread

/-! A configuration comes back from its TOML file. Its limits and paths stand in front of the table
of its executors, and the values of an executor in front of the table of its settings, so that a
reader finds the fields in the order in which they were written. It keeps the fields of an executor
aside until it knows the kind, and so reads every list in them to its end: what it then takes for
the settings of that kind is what was written. -/
namespace StepGraph

open Data (Field presentFields)
open Toml (IsInline opened reread)

variable {front : List (String × Data)}

/-- A reader of an executor finds its kind, and its other fields as they were written. -/
theorem tagged?_reread (kind : String) (settings : OrderedMap String)
    (inlines : ∀ field ∈ front, IsInline field.2) (apart : ∀ field ∈ front, field.1 ≠ "kind") :
    (reread (.record (("kind", .text kind) :: (front ++ [("settings", settings.toData)])))).tagged?
        "kind" = some (kind, .record (front ++ [("settings", settings.toData)])) := by
  have values : ∀ field ∈ ("kind", Data.text kind) :: front, IsInline field.2 := by
    rintro field (_ | ⟨_, member⟩)
    · trivial
    · exact inlines field member
  have table := Toml.closed_texts settings.entries
  have kept : Data.closedFields [("settings", settings.toData)] = [("settings", settings.toData)] ∧
      Data.haveReadable [("settings", settings.toData)] = true := by
    simp [OrderedMap.toData, Data.closedFields, Data.closed, Data.haveReadable, Data.isReadable,
      table.1, table.2]
  obtain ⟨closes, readable⟩ := Toml.closedFields_opened inlines kept
  have back : reread (.record (("kind", .text kind) ::
      (front ++ [("settings", settings.toData)]))) =
        .record (("kind", .text kind) :: (front.map (fun field => (field.1, opened field.2)) ++
          [("settings", settings.toData)])) := by
    rw [← List.cons_append, OrderedMap.toData, Toml.reread_append values, Toml.reread_texts]
    rfl
  rw [back]
  refine Data.tagged?_record readable closes ?_
  simp only [List.forall_mem_append, List.forall_mem_singleton]
  exact ⟨apart, by decide⟩

private theorem Data.list?_texts (texts : List String) :
    Data.list? Data.text? (.list (texts.map .text)) = some texts :=
  Data.list?_map fun _ _ => rfl

private theorem Data.isInline_ofLimit (limit : UInt64) : IsInline (.ofLimit limit) := limit.toNat_lt

private theorem Data.limit?_ofLimit (limit : UInt64) : Data.limit? (.ofLimit limit) = some limit :=
  Data.limit?_natural limit

private theorem Data.withDefault_persona (persona : Option String) :
    (Field.ofOption (persona.map .text)).withDefault none (Data.nullable? Data.text?) =
      some persona :=
  Data.Field.withDefault_ofOption fun _ _ => rfl

/-- Values that are written behind their keys or left out. -/
def AllInline (entries : List (String × Option Data)) : Prop :=
  ∀ entry ∈ entries, ∀ value, entry.2 = some value → IsInline value

private theorem AllInline.present {entries : List (String × Option Data)}
    (inlines : AllInline entries) :
    ∀ field ∈ presentFields entries, IsInline field.2 :=
  fun field member => inlines _ (Data.mem_presentFields.mp member) field.2 rfl

namespace CommandSettings

variable (settings : CommandSettings)

/-- The fields in front of the table. -/
def values : List (String × Option Data) := settings.toFields.dropLast

private theorem presentFields_toFields : presentFields settings.toFields =
    presentFields settings.values ++ [("settings", settings.settings.toData)] := by
  have split : settings.toFields =
      settings.values ++ [("settings", some settings.settings.toData)] := rfl
  rw [split, Data.presentFields_append]
  rfl

private theorem allInline_values : AllInline settings.values := by
  simp only [AllInline, values, toFields, List.dropLast, List.forall_mem_cons, Option.some.injEq,
    Option.map_eq_some_iff, forall_eq']
  refine ⟨Toml.isInline_texts _, Data.isInline_ofLimit _, Data.isInline_ofLimit _, trivial, trivial,
    trivial, trivial, ?_, nofun⟩
  rintro _ ⟨persona, _, rfl⟩
  trivial

private theorem ofData?_present : ofData? (.present settings.toFields) = some settings := by
  have command := Data.list?_texts settings.command
  have timeoutSeconds := Data.limit?_ofLimit settings.timeoutSeconds
  have outputLimit := Data.limit?_ofLimit settings.outputLimit
  have persona := Data.withDefault_persona settings.persona
  have table := settings.settings.orderedMap?_toData
  have fields : (Data.present settings.toFields).fields? ["command", "timeout_secs",
      "output_limit_bytes", "pass_context", "success", "failure", "timeout", "persona",
      "settings"] =
      some [.given (.list (settings.command.map .text)), .given (.ofLimit settings.timeoutSeconds),
        .given (.ofLimit settings.outputLimit), .given (.bool settings.passContext),
        .given (.text settings.success), .given (.text settings.failure),
        .given (.text settings.timeout), .ofOption (settings.persona.map .text),
        .given settings.settings.toData] := Data.fields?_present rfl (by decide)
  have none : default.persona = none := rfl
  simp [ofData?, fields, Data.text?, Data.bool?, command, timeoutSeconds, outputLimit, none,
    persona, table]

end CommandSettings

namespace AgentSettings

variable (settings : AgentSettings)

/-- The fields in front of the table. -/
def values : List (String × Option Data) := settings.toFields.dropLast

private theorem presentFields_toFields : presentFields settings.toFields =
    presentFields settings.values ++ [("settings", settings.settings.toData)] := by
  have split : settings.toFields =
      settings.values ++ [("settings", some settings.settings.toData)] := rfl
  rw [split, Data.presentFields_append]
  rfl

private theorem allInline_values : AllInline settings.values := by
  simp only [AllInline, values, toFields, List.dropLast, List.forall_mem_cons, Option.some.injEq,
    Option.map_eq_some_iff, forall_eq']
  refine ⟨trivial, Toml.isInline_texts _, Toml.isInline_texts _, Data.isInline_ofLimit _,
    Data.isInline_ofLimit _, Data.isInline_ofLimit _, ?_, nofun⟩
  rintro _ ⟨persona, _, rfl⟩
  trivial

private theorem ofData?_present : ofData? (.present settings.toFields) = some settings := by
  have arguments := Data.list?_texts settings.arguments
  have outcomes := Data.list?_texts settings.outcomes
  have timeoutSeconds := Data.limit?_ofLimit settings.timeoutSeconds
  have promptBudget := Data.limit?_ofLimit settings.promptBudget
  have outputLimit := Data.limit?_ofLimit settings.outputLimit
  have persona := Data.withDefault_persona settings.persona
  have table := settings.settings.orderedMap?_toData
  have fields : (Data.present settings.toFields).fields? ["program", "args", "outcomes",
      "timeout_secs", "prompt_budget_bytes", "output_limit_bytes", "persona", "settings"] =
      some [.given (.text settings.program), .given (.list (settings.arguments.map .text)),
        .given (.list (settings.outcomes.map .text)), .given (.ofLimit settings.timeoutSeconds),
        .given (.ofLimit settings.promptBudget), .given (.ofLimit settings.outputLimit),
        .ofOption (settings.persona.map .text), .given settings.settings.toData] :=
    Data.fields?_present rfl (by decide)
  have none : default.persona = none := rfl
  simp [ofData?, fields, Data.text?, arguments, outcomes, timeoutSeconds, promptBudget,
    outputLimit, none, persona, table]

end AgentSettings

namespace ExecutorSettings

/-- The kind of an executor. -/
def kind : ExecutorSettings → String
  | .command _ => "command"
  | .agent _ => "agent"

/-- The fields of an executor behind its kind, in front of the table. -/
def values : ExecutorSettings → List (String × Option Data)
  | .command settings => settings.values
  | .agent settings => settings.values

/-- The table of an executor. -/
def table : ExecutorSettings → OrderedMap String
  | .command settings => settings.settings
  | .agent settings => settings.settings

/-- The fields of an executor: its kind, its values, and its table. -/
def fields (settings : ExecutorSettings) : List (String × Data) :=
  ("kind", .text settings.kind) ::
    (presentFields settings.values ++ [("settings", settings.table.toData)])

private theorem toData_eq (settings : ExecutorSettings) :
    settings.toData = .record settings.fields := by
  cases settings with
  | command settings =>
    exact congrArg (fun fields => Data.record (("kind", .text "command") :: fields))
      settings.presentFields_toFields
  | agent settings =>
    exact congrArg (fun fields => Data.record (("kind", .text "agent") :: fields))
      settings.presentFields_toFields

private theorem allInline_values (settings : ExecutorSettings) : AllInline settings.values := by
  cases settings with
  | command settings => exact settings.allInline_values
  | agent settings => exact settings.allInline_values

/-- No field is named twice. -/
theorem nodup_names (settings : ExecutorSettings) :
    ("kind" :: (settings.values.map Prod.fst ++ ["settings"])).Nodup := by
  cases settings with
  | command settings =>
    have names : settings.values.map Prod.fst = ["command", "timeout_secs", "output_limit_bytes",
        "pass_context", "success", "failure", "timeout", "persona"] := rfl
    simp only [values, names]
    decide
  | agent settings =>
    have names : settings.values.map Prod.fst = ["program", "args", "outcomes", "timeout_secs",
        "prompt_budget_bytes", "output_limit_bytes", "persona"] := rfl
    simp only [values, names]
    decide

private theorem apart (settings : ExecutorSettings) :
    ∀ field ∈ presentFields settings.values, field.1 ≠ "kind" := by
  intro field member same
  have kinds := (List.nodup_cons.mp settings.nodup_names).1
  have named : field.1 ∈ settings.values.map Prod.fst :=
    List.mem_map_of_mem (Data.mem_presentFields.mp member)
  exact kinds (same ▸ List.mem_append_left _ named)

/-- The settings of an executor are those that its fields describe, as a document keeps them. -/
theorem ofData?_reread (settings : ExecutorSettings) :
    ofData? (reread settings.toData) = some settings := by
  have tagged := tagged?_reread settings.kind settings.table settings.allInline_values.present
    settings.apart
  rw [settings.toData_eq, fields, ofData?, tagged]
  cases settings with
  | command settings =>
    have back := settings.ofData?_present
    rw [Data.present, ← presentFields, settings.presentFields_toFields] at back
    simp [kind, values, table, back]
  | agent settings =>
    have back := settings.ofData?_present
    rw [Data.present, ← presentFields, settings.presentFields_toFields] at back
    simp [kind, values, table, back]

private theorem fits (settings : ExecutorSettings) : Toml.Fits 2 settings.toData := by
  have nodup : (settings.fields.map Prod.fst).Nodup := by
    refine settings.nodup_names.sublist ?_
    rw [fields, List.map_cons, List.map_append]
    exact (Data.names_presentFields.append (List.Sublist.refl _)).cons_cons _
  have table : Toml.Fits 3 settings.table.toData := by
    refine ⟨by decide, ?_, Toml.fieldsFit_of_forall ?_⟩
    · rw [List.map_map]
      exact settings.table.nodup_keys
    · simp only [List.forall_mem_map]
      exact fun _ _ => trivial
  rw [toData_eq]
  refine ⟨by decide, nodup, Toml.fieldsFit_of_forall ?_⟩
  simp only [fields, List.forall_mem_cons, List.forall_mem_append]
  exact ⟨trivial, fun field member => (settings.allInline_values.present field member).fits,
    table, nofun⟩

end ExecutorSettings

namespace Config

variable (config : Config)

/-- The limits and paths of a configuration. -/
def values : List (String × Data) :=
  (config.maxSteps.map fun limit => ("max_steps", Data.ofLimit limit)).toList ++
    [("snapshot_path", .text config.snapshotPath), ("run_state_path", .text config.runStatePath)]

/-- The executors of a configuration, as data. -/
def executorFields : List (String × Data) :=
  config.executors.entries.map fun entry => (entry.1, entry.2.toData)

private theorem toFields_eq :
    config.toFields = config.values ++ [("executors", .record config.executorFields)] := by
  rw [values, List.append_assoc]
  rfl

private theorem isInline_values : ∀ field ∈ config.values, IsInline field.2 := by
  simp only [values, List.forall_mem_append, List.forall_mem_cons]
  refine ⟨fun field member => ?_, trivial, trivial, nofun⟩
  obtain ⟨limit, _, rfl⟩ := Option.map_eq_some_iff.mp (Option.mem_toList.mp member)
  exact Data.isInline_ofLimit limit

private theorem opened_values :
    config.values.map (fun field => (field.1, opened field.2)) = config.values := by
  cases limit : config.maxSteps <;> simp [values, limit, opened, Data.ofLimit]

/-- A configuration is what its fields describe, as a document keeps them. -/
theorem ofData?_reread : ofData? (reread config.toData) = some config := by
  have tables : ∀ entry ∈ config.executorFields, ¬ Toml.IsPlain entry.2 := by
    simp only [executorFields, List.forall_mem_map]
    intro entry _ plain
    exact plain _ entry.2.toData_eq
  have executors : Data.sortedMap? ExecutorSettings.ofData?
      (.record (config.executors.entries.map fun entry => (entry.1, reread entry.2.toData))) =
        some config.executors :=
    @Data.sortedMap?_record _ _ (fun settings => reread settings.toData) _
      fun entry _ => ExecutorSettings.ofData?_reread entry.2
  have back : reread config.toData = .record (config.values ++ [("executors",
      .record (config.executors.entries.map fun entry => (entry.1, reread entry.2.toData)))]) := by
    rw [toData, toFields_eq, Toml.reread_append config.isInline_values, opened_values,
      Toml.reread_tables tables, executorFields, List.map_map]
    rfl
  have default : default.maxSteps = none := rfl
  rw [back]
  generalize Data.record (config.executors.entries.map fun entry =>
    (entry.1, reread entry.2.toData)) = tables at executors
  have fields : (Data.record (config.values ++ [("executors", tables)])).fields?
      ["max_steps", "snapshot_path", "run_state_path", "executors"] =
      some [.ofOption (config.maxSteps.map .ofLimit), .given (.text config.snapshotPath),
        .given (.text config.runStatePath), .given tables] := by
    cases limit : config.maxSteps <;> (simp only [values, limit]; rfl)
  have maxSteps : (Field.ofOption (config.maxSteps.map .ofLimit)).withDefault none
      (Data.nullable? Data.limit?) = some config.maxSteps := by
    refine Data.Field.withDefault_ofOption fun limit _ => ?_
    exact congrArg (Option.map some) (Data.limit?_ofLimit limit)
  simp [ofData?, fields, default, maxSteps, Data.text?, executors]

private theorem nodup_names : (config.toFields.map Prod.fst).Nodup := by
  cases limit : config.maxSteps <;> simp [toFields, limit]

private theorem fieldsFit : Toml.FieldsFit 1 config.toFields := by
  refine Toml.fieldsFit_of_forall ?_
  rw [toFields_eq]
  simp only [List.forall_mem_append, List.forall_mem_singleton]
  refine ⟨fun field member => (config.isInline_values field member).fits, by decide, ?_,
    Toml.fieldsFit_of_forall ?_⟩
  · rw [executorFields, List.map_map]
    exact config.executors.sorted_keys.imp fun before => String.ne_of_lt before
  · simp only [executorFields, List.forall_mem_map]
    exact fun entry _ => entry.2.fits

variable {config : Config} {path : String} {files : FileSystem}

/-- A configuration is read from the text of its file. -/
theorem ofFileText?_fileText (config : Config) : ofFileText? config.fileText = some config := by
  rw [ofFileText?, fileText, Toml.parse?_render config.nodup_names config.fieldsFit]
  exact config.ofData?_reread

private theorem exists_of_readText {text : String} (read : files.readText path = .ok text) :
    files.exists? path = true := by
  obtain ⟨content, found, _⟩ := bind_eq_ok.mp read
  unfold FileSystem.read at found
  unfold FileSystem.exists?
  cases located : files.locate path with
  | error error =>
    rw [located] at found
    cases found
  | ok place => rfl

/-- What a file that is there describes is loaded if nothing is wrong with it. -/
theorem load_of_readText {text : String} (read : files.readText path = .ok text)
    (described : ofFileText? text = some config) : load files path = config.validated := by
  simp only [load, exists_of_readText read, ↓reduceIte, attemptingIo, read, described,
    Except.mapError, bind, Except.bind]

/-- A configuration with which nothing is wrong is loaded from a file that holds its text. -/
theorem load_of_read (valid : config.fault? = none)
    (held : files.read path = .ok config.fileText.toUTF8) : load files path = .ok config := by
  rw [load_of_readText (FileSystem.readText_of_read held) config.ofFileText?_fileText]
  simp only [validated, valid]

/-- Configurations survive their files: one that has been stored is loaded as it was. One with
which something is wrong is not stored, and nothing changes; nor is it loaded, whatever the text
that describes it. -/
theorem configs_survive_files (config : Config) (path : String) :
    (∀ workspace stored, (config.store path).run workspace = (.ok (), stored) →
      load stored.files path = .ok config) ∧
    ∀ failure, config.fault? = some failure →
      (∀ workspace, (config.store path).run workspace = (.error failure, workspace)) ∧
        ∀ files text, files.readText path = .ok text → ofFileText? text = some config →
          load files path = .error failure := by
  refine ⟨fun workspace stored wrote => ?_, fun failure faulty => ⟨fun workspace => ?_, ?_⟩⟩
  · unfold store at wrote
    cases fault : config.fault? with
    | some failure =>
      rw [fault] at wrote
      cases wrote
    | none =>
      simp only [fault] at wrote
      exact load_of_read fault (FileSystem.read_of_replace (FileSystem.replace_of_run wrote))
  · simp only [store, faulty]
    rfl
  · intro files text read described
    rw [load_of_readText read described]
    simp only [validated, faulty]

/-- A configuration with executors of both kinds, texts that need marks of every kind, and the
largest limit. -/
def furnished : Config where
  maxSteps := some 18446744073709551615
  snapshotPath := "out/snapshot.json"
  runStatePath := "C:\\state"
  executors := .ofList [
    ("tool.v2", .command { CommandSettings.default with
      command := ["sh", "-c", "echo 'it is' \"done\""]
      settings := .ofList [("zone", ""), ("area", "north")] }),
    ("agent", .agent { AgentSettings.default with
      persona := some "Be brief.\n'''\"\"\"\n" })]

/-- Where it is to be stored. -/
def furnishedPath : String := "/work/config.toml"

/-- What storing it comes to. -/
def furnishedStored : Except Failure Unit × Workspace :=
  (furnished.store furnishedPath).run ⟨FileSystem.fresh ["work"], false⟩

/-- The same configuration, with no step allowed. -/
def halted : Config := { furnished with maxSteps := some 0 }

theorem furnished_survives :
    furnishedStored.1 = .ok () ∧ load furnishedStored.2.files furnishedPath = .ok furnished ∧
      halted.fault? = some (.single .zeroStepLimit) ∧
      (halted.store furnishedPath).run furnishedStored.2 =
        (.error (.single .zeroStepLimit), furnishedStored.2) := by
  have stored : furnishedStored.1 = .ok () := by decide
  have wrote : (furnished.store furnishedPath).run ⟨FileSystem.fresh ["work"], false⟩ =
      (.ok (), furnishedStored.2) := by
    rw [← stored]
    rfl
  have faulty : halted.fault? = some (.single .zeroStepLimit) := by decide
  exact ⟨stored, (configs_survive_files furnished furnishedPath).1 _ _ wrote, faulty,
    ((configs_survive_files halted furnishedPath).2 _ faulty).1 _⟩

end Config
end StepGraph
