import StepGraph.Proofs.Context.Layers
import StepGraph.Proofs.Engine.Stages

/-! The history in the context of a step. The layers of a context are written anew in every
iteration, from the state, the files and the executor as they are then. The history in front
of them is what the step's plan keeps of the last answer, whatever that is: so it is free of
earlier layers exactly as long as the executors hand back none, and an executor that hands
back its whole context puts the layers of its own step in front of those of the next. -/
namespace StepGraph

/-- The executor hands back nothing of the kinds that are written anew for every step. -/
def ExecutorResult.IsHistory (answer : ExecutorResult) : Prop := answer.payload.IsHistory

instance : DecidablePred ExecutorResult.IsHistory := fun answer =>
  inferInstanceAs (Decidable answer.payload.IsHistory)

namespace Stage

variable {stage : Stage} {dispatch : Dispatch} {artifacts : List Artifact} {inherited : Payload}
  {manifest : Manifest} {group : String}

/-- What the next step of a stage is told. -/
def situation (stage : Stage) (dispatch : Dispatch) (artifacts : List Artifact) : Situation :=
  stage.engine.situation stage.run stage.session.service dispatch.id dispatch.step artifacts

/-- The order of a stage is that of its next step, made from the artifacts that are there now
and the static context that reaches the step now, behind what the plan keeps of the history. -/
structure Assembles (stage : Stage) (dispatch : Dispatch) (artifacts : List Artifact)
    (inherited : Payload) : Prop where
  waiting : stage.run.current = some dispatch.id
  declared : stage.manifest.step dispatch.id = .ok dispatch.step
  read : dispatch.step.readArtifacts dispatch.id stage.engine.sandbox
    stage.session.workspace.files = .ok artifacts
  reaches : (stage.manifest.inheritanceChain dispatch.id stage.run.stack >>=
    stage.manifest.staticLayer) = .ok inherited
  context : dispatch.order.context = dispatch.step.plan.apply stage.run.payload ++
    (stage.situation dispatch artifacts).layers dispatch.step inherited

/-- Every order is made so. -/
theorem assembles_of_dispatch (dispatched : stage.dispatch = .ok dispatch) :
    ∃ artifacts inherited, stage.Assembles dispatch artifacts inherited := by
  obtain ⟨id, step, artifacts, context, waiting, declared, read, built, rfl⟩ :=
    Engine.dispatch_eq_ok.mp dispatched
  obtain ⟨same, chain, inherited, again, chained, inherits, context⟩ :=
    Manifest.context_eq_ok.mp built
  cases declared.symm.trans again
  have reaches := bind_eq_ok.mpr ⟨chain, chained, inherits⟩
  exact ⟨artifacts, inherited, waiting, declared, read, reaches, context⟩

/-- The static context tells no facts about the run. -/
theorem Assembles.silent (assembles : stage.Assembles dispatch artifacts inherited) :
    ∀ entry ∈ inherited, entry.TellsNoFact := by
  obtain ⟨chain, _, inherits⟩ := bind_eq_ok.mp assembles.reaches
  exact fun entry => Manifest.tellsNoFact_of_mem_staticLayer inherits

/-- The history of a run is free of layers as long as the executors hand back none. -/
theorem OfRun.isHistory (ofRun : stage.OfRun manifest group ExecutorResult.IsHistory) :
    stage.run.payload.IsHistory := by
  induction ofRun with
  | start => exact List.forall_mem_nil _
  | next _ given follows ih =>
    rcases follows.payload with kept | ⟨answer, answered, replaced⟩
    · exact kept ▸ ih
    · exact replaced ▸ given answer answered

end Stage

/-- A context is what the plan keeps of the history, with the layers of this very iteration
behind it. While the executors of a run hand back history alone, these layers are all there is
of their kinds, and the conversation is all that the plan keeps. -/
theorem contexts_are_renewed {stage : Stage} {dispatch : Dispatch}
    (dispatched : stage.dispatch = .ok dispatch) :
    ∃ artifacts inherited, stage.Assembles dispatch artifacts inherited ∧
      ((stage.situation dispatch artifacts).layers dispatch.step inherited).IsRenewed ∧
      ∀ manifest group, stage.OfRun manifest group ExecutorResult.IsHistory →
        dispatch.order.context.renewed =
          (stage.situation dispatch artifacts).layers dispatch.step inherited ∧
        dispatch.order.context.conversation = dispatch.step.plan.apply stage.run.payload := by
  obtain ⟨artifacts, inherited, assembles⟩ := Stage.assembles_of_dispatch dispatched
  have renewed : ((stage.situation dispatch artifacts).layers dispatch.step inherited).IsRenewed :=
    Situation.isRenewed_layers assembles.silent
  refine ⟨artifacts, inherited, assembles, renewed, ?_⟩
  intro manifest group ofRun
  have kept := ofRun.isHistory.apply dispatch.step.plan
  rw [assembles.context]
  exact ⟨kept.renewed_append renewed, renewed.conversation_append.trans kept.conversation_eq⟩

/-- Two steps, one behind the other. -/
def relay : Manifest :=
  .small [("Main", [
    ("A", .routing [⟨"SUCCESS", "JUMP:Main__B"⟩]), ("B", .routing [⟨"SUCCESS", "RETURN"⟩])])]

/-- A run of them is about to begin, and its first step will be answered like this. -/
def relayBegin (payload : ReplyPayload) : Stage where
  engine : Engine Replies := ⟨relay, Replies.service, "/work", none, []⟩
  session := (Engine.newSession ⟨[⟨false, none, payload, "SUCCESS"⟩], []⟩
    ⟨.fresh ["work"], false⟩).restarted (.startingAt "run-1" ⟨"Main", "A"⟩)

/-- The second step is next. -/
def relayNext (payload : ReplyPayload) : Stage := (relayBegin payload).turned

/-- The order of the second step, with this history in front. -/
def relayDispatch (history : Payload) : Dispatch where
  id := ⟨"Main", "B"⟩
  step := .routing [⟨"SUCCESS", "RETURN"⟩]
  order := ⟨"tool", history ++ metadataLayer ⟨"run-1", "/work", 2⟩ ⟨"Main", "B"⟩ 0, "/work"⟩

theorem relay_begins : relay.Begins "Main" ⟨"Main", "A"⟩ := ⟨by decide, by decide⟩

theorem relayNext_ofRun {payload : ReplyPayload} {Given : ExecutorResult → Prop}
    {answer : ExecutorResult} (goes : (relayBegin payload).Goes)
    (answered : (relayBegin payload).answer? = some answer) (given : Given answer) :
    (relayNext payload).OfRun relay "Main" Given := by
  refine .next (.start rfl relay_begins) ?_ goes.follows
  intro other again
  cases answered.symm.trans again
  exact given

/-- A message. -/
def relayMessage : Payload := [⟨"m1", Kind.message, "half done"⟩]

theorem relay_remembers :
    (relayNext (.append relayMessage)).OfRun relay "Main" ExecutorResult.IsHistory := by
  have answered : (relayBegin (.append relayMessage)).answer? =
      some ⟨relayMessage, "SUCCESS"⟩ := by decide
  exact relayNext_ofRun (by decide) answered (by decide)

theorem relay_dispatches :
    (relayNext (.append relayMessage)).dispatch = .ok (relayDispatch relayMessage) := by
  decide +kernel

/-- Behind a message, the context of the second step has the facts of the second iteration and
nothing else of their kind. -/
theorem relay_context_is_renewed :
    (relayNext (.append relayMessage)).OfRun relay "Main" ExecutorResult.IsHistory ∧
      (relayNext (.append relayMessage)).dispatch = .ok (relayDispatch relayMessage) ∧
      (relayDispatch relayMessage).order.context.renewed =
        metadataLayer ⟨"run-1", "/work", 2⟩ ⟨"Main", "B"⟩ 0 := by
  obtain ⟨artifacts, inherited, assembles, _, renews⟩ := contexts_are_renewed relay_dispatches
  have unread : (relayDispatch relayMessage).step.readArtifacts ⟨"Main", "B"⟩ "/work"
      (relayNext (.append relayMessage)).session.workspace.files = .ok [] := rfl
  cases unread.symm.trans assembles.read
  have alone : (relay.inheritanceChain ⟨"Main", "B"⟩ [] >>= relay.staticLayer) = .ok [] := by
    decide
  cases alone.symm.trans assembles.reaches
  have renewed := (renews relay "Main" relay_remembers).1
  exact ⟨relay_remembers, relay_dispatches, renewed.trans (by decide +kernel)⟩

/-- The facts of the first iteration. -/
def relayFacts : Payload := metadataLayer ⟨"run-1", "/work", 1⟩ ⟨"Main", "A"⟩ 0

/-- An executor that hands back its whole context leaves the facts of its own iteration in the
context of the next. -/
theorem echoed_context_is_not_renewed :
    (relayNext .context).OfRun relay "Main" (fun _ => True) ∧
      (relayNext .context).dispatch = .ok (relayDispatch relayFacts) ∧
      (∀ artifacts inherited,
        (relayNext .context).Assembles (relayDispatch relayFacts) artifacts inherited →
          (relayDispatch relayFacts).order.context.renewed ≠
            ((relayNext .context).situation (relayDispatch relayFacts) artifacts).layers
              (relayDispatch relayFacts).step inherited) ∧
      (relayDispatch relayFacts).order.context.conversation ≠
        (relayDispatch relayFacts).step.plan.apply (relayNext .context).run.payload := by
  have answered : (relayBegin .context).answer? = some ⟨relayFacts, "SUCCESS"⟩ := by
    decide +kernel
  refine ⟨relayNext_ofRun (by decide) answered trivial, by decide +kernel, ?_,
    by decide⟩
  intro artifacts inherited assembles same
  have all : (relayDispatch relayFacts).order.context.renewed =
      (relayDispatch relayFacts).order.context := by decide +kernel
  have kept : (relayDispatch relayFacts).step.plan.apply (relayNext .context).run.payload ≠ [] := by
    decide
  rw [all, assembles.context] at same
  exact kept (List.append_left_eq_self.mp same)

end StepGraph
