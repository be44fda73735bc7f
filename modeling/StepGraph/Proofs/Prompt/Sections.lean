import Mathlib.Logic.ExistsUnique
import StepGraph.Prompt

/-! How a context is grouped. Entries are told apart by their kinds twice: when they are put into
sections, one kind after the other, and when the history is told from what is written anew for
each step, by the list of reserved kinds. The two agree: each reserved kind has a section of its
own, and the history takes the rest. -/
namespace StepGraph

/-- The sections of a prompt that hold entries of the context. -/
inductive Section
  | role
  | task
  | settings
  | projectContext
  | history
  | files
  | run
  deriving DecidableEq

namespace Section

/-- All sections, in the order of the prompt. -/
def all : List Section := [.role, .task, .settings, .projectContext, .history, .files, .run]

/-- The kind that has the section for its own. -/
def kind? : Section → Option String
  | .role => some Kind.persona
  | .task => some Kind.instructions
  | .settings => some Kind.settings
  | .projectContext => some Kind.staticContext
  | .history => none
  | .files => some Kind.artifact
  | .run => some Kind.metadata

/-- Entries of a reserved kind belong to the section of that kind, all others to the history. -/
def Takes (part : Section) (entry : Entry) : Prop :=
  part.kind? = if Kind.isReserved entry.kind then some entry.kind else none

instance (part : Section) : DecidablePred part.Takes := fun entry =>
  inferInstanceAs (Decidable
    (part.kind? = if Kind.isReserved entry.kind then some entry.kind else none))

/-- The entries of a section, in the order of the context. -/
def entries (part : Section) (context : Payload) : Payload := context.filter (part.Takes ·)

variable {first second part other : Section} {kind : String} {entry : Entry} {context : Payload}

private theorem kind?_inj : first.kind? = second.kind? ↔ first = second := by
  cases first <;> cases second <;> decide

/-- The kinds with sections of their own are the reserved ones. -/
theorem isReserved_iff :
    Kind.isReserved kind = true ↔ ∃ part : Section, part.kind? = some kind := by
  simp only [Kind.isReserved, Kind.reserved, List.contains_iff_mem, List.mem_cons,
    List.not_mem_nil, or_false]
  constructor
  · rintro (rfl | rfl | rfl | rfl | rfl | rfl)
    · exact ⟨.task, rfl⟩
    · exact ⟨.role, rfl⟩
    · exact ⟨.settings, rfl⟩
    · exact ⟨.projectContext, rfl⟩
    · exact ⟨.files, rfl⟩
    · exact ⟨.run, rfl⟩
  · rintro ⟨part, own⟩
    cases part <;> cases own <;> simp

/-- Every entry belongs to one section. -/
theorem existsUnique_takes (entry : Entry) : ∃! part : Section, part.Takes entry := by
  have has : ∃ part : Section, part.Takes entry := by
    unfold Takes
    split
    · rename_i reserved
      exact isReserved_iff.mp reserved
    · exact ⟨.history, rfl⟩
  obtain ⟨part, takes⟩ := has
  exact ⟨part, takes, fun other also => kind?_inj.mp (also.trans takes.symm)⟩

private theorem takes_iff_of_kind (own : part.kind? = some kind) :
    part.Takes entry ↔ entry.kind = kind := by
  unfold Takes
  rw [own]
  constructor
  · intro takes
    split at takes
    · exact (Option.some.inj takes).symm
    · cases takes
  · rintro rfl
    rw [if_pos (isReserved_iff.mpr ⟨part, own⟩)]

private theorem history_takes_iff :
    Section.history.Takes entry ↔ Kind.isReserved entry.kind = false := by
  unfold Takes
  by_cases reserved : Kind.isReserved entry.kind = true <;> simp [kind?, reserved]

theorem entries_of_kind (own : part.kind? = some kind) :
    part.entries context = context.ofKind kind :=
  List.filter_congr fun _ _ => decide_eq_decide.mpr (takes_iff_of_kind own)

/-- The history is the conversation. -/
theorem entries_history : Section.history.entries context = context.conversation := by
  refine List.filter_congr fun entry _ => ?_
  simp only [history_takes_iff, Bool.decide_eq_false]

private theorem takes_iff_eq (takes : part.Takes entry) : other.Takes entry ↔ other = part := by
  refine ⟨fun also => kind?_inj.mp (also.trans takes.symm), ?_⟩
  rintro rfl
  exact takes

/-- The kind of an entry tells its section from the others. -/
theorem kind_eq_iff (takes : part.Takes entry) (other : Section) (own : other.kind? = some kind) :
    entry.kind = kind ↔ other = part := by
  rw [← takes_iff_of_kind own, takes_iff_eq takes]

/-- An entry goes in front of its own section and leaves the others as they are. -/
theorem entries_cons (takes : part.Takes entry) (other : Section) :
    other.entries (entry :: context) =
      if other = part then entry :: other.entries context else other.entries context := by
  unfold entries
  rw [List.filter_cons]
  simp only [decide_eq_true_eq, takes_iff_eq takes]

/-- The sections share the entries of a context out among them. -/
theorem perm_entries (context : Payload) : (all.flatMap (·.entries context)).Perm context := by
  induction context with
  | nil => exact .refl _
  | cons entry rest ih =>
    obtain ⟨part, takes, -⟩ := existsUnique_takes entry
    refine List.Perm.trans ?_ (ih.cons entry)
    simp only [entries_cons takes]
    refine List.perm_iff_count.mpr fun other => ?_
    cases part <;> simp [all, List.count_append, List.count_cons] <;> omega

end Section

namespace Sections

/-- What a section tells of an entry that has a name: the name, and the content. -/
def labelled (start : String) (entry : Entry) : String × String :=
  (behind start entry.id, entry.content)

/-- Each section holds its own entries, in the order of the context. -/
theorem ofContext_eq (context : Payload) : ofContext context =
    { persona := (Section.role.entries context).map Entry.content
      instructions := (Section.task.entries context).map Entry.content
      settings := (Section.settings.entries context).map Entry.content
      staticContext := (Section.projectContext.entries context).map (labelled "static:")
      history := Section.history.entries context
      artifacts := (Section.files.entries context).map (labelled "artifact:")
      metadata := (Section.run.entries context).map (labelled "meta:") } := by
  induction context with
  | nil => rfl
  | cons entry rest ih =>
    obtain ⟨part, takes, -⟩ := Section.existsUnique_takes entry
    simp only [Section.entries_cons takes]
    rw [ofContext, List.foldr_cons, ← ofContext, ih]
    simp only [add, Section.kind_eq_iff takes .role rfl,
      Section.kind_eq_iff takes .task rfl,
      Section.kind_eq_iff takes .settings rfl,
      Section.kind_eq_iff takes .projectContext rfl,
      Section.kind_eq_iff takes .files rfl,
      Section.kind_eq_iff takes .run rfl]
    cases part <;> rfl

end Sections
end StepGraph
