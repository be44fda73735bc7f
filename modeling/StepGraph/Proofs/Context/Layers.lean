import StepGraph.Context
import StepGraph.Proofs.Manifest.Lookups
import StepGraph.Proofs.Plan

/-! What a context is made of. Behind what the step's plan keeps of the history stand the
layers that are written anew for the step. All of their entries are of reserved kinds, and
a plan only ever keeps entries: so in a context whose history has none of these kinds, the
two parts can be told from each other by the kinds alone. -/
namespace StepGraph

variable {manifest : Manifest} {situation : Situation} {entry : Entry} {id : StepId}

namespace Payload

variable {payload history own : Payload}

/-- The entries of the kinds that are written anew for every step. -/
def renewed (payload : Payload) : Payload :=
  payload.filter fun entry => Kind.isReserved entry.kind

/-- No entry is of a kind that is written anew for every step. -/
def IsHistory (payload : Payload) : Prop :=
  ∀ entry ∈ payload, Kind.isReserved entry.kind = false

instance : DecidablePred IsHistory := fun payload =>
  inferInstanceAs (Decidable (∀ entry ∈ payload, Kind.isReserved entry.kind = false))

/-- Every entry is of a kind that is written anew for every step. -/
def IsRenewed (payload : Payload) : Prop :=
  ∀ entry ∈ payload, Kind.isReserved entry.kind = true

/-- The kinds tell a history from what stands behind it. -/
theorem IsHistory.renewed_append (isHistory : history.IsHistory) (isRenewed : own.IsRenewed) :
    renewed (history ++ own) = own := by
  have none : history.renewed = [] := by
    refine List.filter_eq_nil_iff.mpr fun entry member => ?_
    simp [isHistory entry member]
  have all : own.renewed = own := List.filter_eq_self.mpr isRenewed
  unfold renewed at none all ⊢
  rw [List.filter_append, none, all, List.nil_append]

/-- The conversation of a history with renewed entries behind it is that of the history. -/
theorem IsRenewed.conversation_append (isRenewed : own.IsRenewed) :
    conversation (history ++ own) = history.conversation := by
  have none : own.conversation = [] := by
    refine List.filter_eq_nil_iff.mpr fun entry member => ?_
    simp [isRenewed entry member]
  unfold conversation at none ⊢
  rw [List.filter_append, none, List.append_nil]

theorem IsHistory.conversation_eq (isHistory : history.IsHistory) :
    history.conversation = history := by
  refine List.filter_eq_self.mpr fun entry member => ?_
  rw [isHistory entry member]
  rfl

theorem IsHistory.apply (isHistory : payload.IsHistory) (plan : Plan) :
    (plan.apply payload).IsHistory :=
  fun entry member => isHistory entry (Plan.mem_of_mem_apply member)

end Payload

/-- What a step is told apart from the facts about the run: its instructions and those of its
executor, the static context that reaches it, and its artifacts. -/
def Situation.briefing (situation : Situation) (step : Step) (inherited : Payload) : Payload :=
  contractLayer step situation.id situation.profile ++ inherited ++
    artifactLayer situation.artifacts

/-- The facts about the run. -/
def Situation.metadata (situation : Situation) : Payload :=
  metadataLayer situation.facts situation.id situation.stack.length

/-- What is written anew for a step. -/
def Situation.layers (situation : Situation) (step : Step) (inherited : Payload) : Payload :=
  situation.briefing step inherited ++ situation.metadata

/-- A context is what the plan keeps of the history, and the layers. -/
theorem Manifest.context_eq_ok {context : Payload} :
    manifest.context situation = .ok context ↔
      ∃ step chain inherited, manifest.step situation.id = .ok step ∧
        manifest.inheritanceChain situation.id situation.stack = .ok chain ∧
        manifest.staticLayer chain = .ok inherited ∧
        context = step.plan.apply situation.payload ++ situation.layers step inherited := by
  simp only [Manifest.context, bind_eq_ok]
  constructor
  · rintro ⟨step, found, chain, chained, inherited, built, same⟩
    cases same
    refine ⟨step, chain, inherited, found, chained, built, ?_⟩
    simp [Situation.layers, Situation.briefing, Situation.metadata]
  · rintro ⟨step, chain, inherited, found, chained, built, rfl⟩
    refine ⟨step, found, chain, chained, inherited, built, ?_⟩
    simp [Situation.layers, Situation.briefing, Situation.metadata, pure, Except.pure]

/-- An entry that is written anew for a step and tells no fact about the run: neither its kind
nor its id is that of a fact. -/
structure Entry.TellsNoFact (entry : Entry) : Prop where
  renewed : Kind.isReserved entry.kind = true
  kind : entry.kind ≠ Kind.metadata
  id : ∀ key, entry.id ≠ metadataId key

/-- The ids of facts all begin alike, so an id that begins otherwise is none of them. -/
theorem Entry.tellsNoFact {id kind content : String} (renewed : Kind.isReserved kind = true)
    (other : kind ≠ Kind.metadata) (begins : id.toList.head? ≠ some 'm') :
    (⟨id, kind, content⟩ : Entry).TellsNoFact := by
  refine ⟨renewed, other, ?_⟩
  rintro key rfl
  exact begins (by simp [metadataId])

private theorem tellsNoFact_of_mem_contractLayer {step : Step} {profile : Option Profile}
    (member : entry ∈ contractLayer step id profile) : entry.TellsNoFact := by
  simp only [contractLayer, List.mem_append, List.mem_map] at member
  rcases member with (⟨text, _, rfl⟩ | ⟨text, _, rfl⟩) | configured
  · exact Entry.tellsNoFact rfl (by decide) (by simp [toString])
  · exact Entry.tellsNoFact rfl (by decide) (by simp [toString])
  · split at configured
    · cases configured
    · cases List.mem_singleton.mp configured
      exact Entry.tellsNoFact rfl (by decide) (by simp [toString])

theorem Manifest.tellsNoFact_of_mem_staticLayer {chain : List String} {layer : Payload}
    (built : manifest.staticLayer chain = .ok layer) (member : entry ∈ layer) :
    entry.TellsNoFact := by
  induction chain generalizing layer with
  | nil =>
    cases built
    cases member
  | cons name rest ih =>
    obtain ⟨group, _, built⟩ := bind_eq_ok.mp built
    obtain ⟨behind, others, same⟩ := bind_eq_ok.mp built
    cases same
    rcases List.mem_append.mp member with own | inherited
    · obtain ⟨text, _, rfl⟩ := List.mem_map.mp own
      exact Entry.tellsNoFact rfl (by decide) (by simp [toString])
    · exact ih others inherited

private theorem tellsNoFact_of_mem_artifactLayer {artifacts : List Artifact}
    (member : entry ∈ artifactLayer artifacts) : entry.TellsNoFact := by
  obtain ⟨artifact, _, rfl⟩ := List.mem_map.mp member
  exact Entry.tellsNoFact rfl (by decide) (by simp [toString])

/-- Only the metadata tells facts about the run. -/
theorem Situation.tellsNoFact_of_mem_briefing {step : Step} {inherited : Payload}
    (silent : ∀ entry ∈ inherited, entry.TellsNoFact)
    (member : entry ∈ situation.briefing step inherited) : entry.TellsNoFact := by
  rcases List.mem_append.mp member with front | artifact
  · rcases List.mem_append.mp front with contract | static
    · exact tellsNoFact_of_mem_contractLayer contract
    · exact silent entry static
  · exact tellsNoFact_of_mem_artifactLayer artifact

private theorem Situation.isRenewed_metadata (situation : Situation) :
    situation.metadata.IsRenewed := by
  intro entry member
  obtain ⟨fact, _, rfl⟩ := List.mem_map.mp member
  rfl

/-- All layers are made of entries of reserved kinds. -/
theorem Situation.isRenewed_layers {step : Step} {inherited : Payload}
    (silent : ∀ entry ∈ inherited, entry.TellsNoFact) :
    (situation.layers step inherited).IsRenewed := by
  intro entry member
  rcases List.mem_append.mp member with front | fact
  · exact (Situation.tellsNoFact_of_mem_briefing silent front).renewed
  · exact situation.isRenewed_metadata entry fact

/-- Behind a history, the metadata is all there is of its kind. -/
theorem Situation.ofKind_metadata {step : Step} {inherited history : Payload}
    (silent : ∀ entry ∈ inherited, entry.TellsNoFact) (isHistory : history.IsHistory) :
    Payload.ofKind (history ++ situation.layers step inherited) Kind.metadata =
      situation.metadata := by
  have before : history.ofKind Kind.metadata = [] := by
    refine List.filter_eq_nil_iff.mpr fun entry member fact => ?_
    have kept := isHistory entry member
    rw [of_decide_eq_true fact] at kept
    cases kept
  have between : (situation.briefing step inherited).ofKind Kind.metadata = [] := by
    refine List.filter_eq_nil_iff.mpr fun entry member fact => ?_
    exact (Situation.tellsNoFact_of_mem_briefing silent member).kind (of_decide_eq_true fact)
  have behind : situation.metadata.ofKind Kind.metadata = situation.metadata := by
    refine List.filter_eq_self.mpr fun entry member => ?_
    obtain ⟨fact, _, rfl⟩ := List.mem_map.mp member
    rfl
  unfold Payload.ofKind at before between behind ⊢
  rw [Situation.layers, List.filter_append, List.filter_append, before, between, behind]
  rfl

/-- The id of a fact leads to the metadata, unless something in front of the layers has it. -/
theorem Situation.find?_metadataId {step : Step} {inherited : Payload}
    (silent : ∀ entry ∈ inherited, entry.TellsNoFact) (history : Payload) (key : String) :
    (history ++ situation.layers step inherited).find? (·.id = metadataId key) =
      (history.find? (·.id = metadataId key)).or
        (situation.metadata.find? (·.id = metadataId key)) := by
  have between : (situation.briefing step inherited).find? (·.id = metadataId key) = none := by
    refine List.find?_eq_none.mpr fun entry member same => ?_
    exact (Situation.tellsNoFact_of_mem_briefing silent member).id key (of_decide_eq_true same)
  rw [Situation.layers, List.find?_append, List.find?_append, between, Option.none_or]

end StepGraph
