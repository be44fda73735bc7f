import StepGraph.Proofs.Context
import StepGraph.Proofs.Engine.Calls
import StepGraph.Proofs.Manifest.Names

/-! Well-formed manifests do not go wrong. If all names form ids, all actions read,
and all they refer to is declared, then a run stands at a declared step at all
times, and so does every call that is still open. No lookup can miss from such a
state: what is left to fail are the artifacts, the executors and, if a step has no
fallback, its outcomes. -/
namespace StepGraph

namespace Manifest

variable {manifest : Manifest}

/-- What the action refers to is declared. -/
def Resolves (manifest : Manifest) : Action → Prop
  | .jump target => manifest.Declares target
  | .call group => ∃ entry, manifest.entryOf group = .ok entry
  | .goBack => True

/-- Names form ids, and the action of every transition of every declared step reads
and refers to what is declared. -/
structure WellFormed (manifest : Manifest) : Prop where
  names : manifest.validateNames = .ok ()
  actions : ∀ id step, manifest.step id = .ok step → ∀ transition ∈ step.transitions,
    ∃ action, Action.parse transition.action = .ok action ∧ manifest.Resolves action

/-- Every declared step says what follows the outcomes it does not name. -/
def HasFallbacks (manifest : Manifest) : Prop :=
  ∀ id step, manifest.step id = .ok step →
    ∃ transition ∈ step.transitions, transition.onOutcome = fallbackOutcome

/-! Whether a manifest is well formed can be checked entry by entry. -/

instance (id : StepId) : Decidable (manifest.Declares id) :=
  inferInstanceAs (Decidable (∃ step, manifest.step id = .ok step))

instance : DecidablePred manifest.Resolves
  | .jump target => inferInstanceAs (Decidable (manifest.Declares target))
  | .call group => inferInstanceAs (Decidable (∃ entry, manifest.entryOf group = .ok entry))
  | .goBack => isTrue trivial

private theorem wellFormed_iff : manifest.WellFormed ↔ manifest.validateNames = .ok () ∧
    ∀ entry ∈ manifest.groups.entries, ∀ named ∈ entry.2.steps.entries,
      ∀ transition ∈ named.2.transitions,
        ∃ action, Action.parse transition.action = .ok action ∧ manifest.Resolves action := by
  constructor
  · intro well
    exact ⟨well.names, forall_steps_iff.mp well.actions⟩
  · rintro ⟨names, actions⟩
    exact ⟨names, forall_steps_iff.mpr actions⟩

instance : Decidable manifest.WellFormed := decidable_of_iff _ wellFormed_iff.symm

instance : Decidable manifest.HasFallbacks :=
  decidable_of_iff _ (forall_steps_iff (P := fun _ step =>
    ∃ transition ∈ step.transitions, transition.onOutcome = fallbackOutcome)).symm

end Manifest

/-- The error blames a name, a reference or an action of the manifest. -/
def RunError.BlamesManifest : RunError → Prop
  | .invalidStepId _ => True
  | .unknownGroup _ => True
  | .unknownStep _ => True
  | .invalidAction .. => True
  | _ => False

/-- The transition that follows an outcome is one of the step's own. -/
theorem Step.mem_of_transitionFor {step : Step} {id : StepId} {outcome : String}
    {transition : Transition} (routed : step.transitionFor id outcome = .ok transition) :
    transition ∈ step.transitions := by
  unfold Step.transitionFor at routed
  split at routed
  · cases routed
  split at routed
  · rename_i found
    cases routed
    exact List.mem_of_find?_eq_some found
  split at routed
  · rename_i found
    cases routed
    exact List.mem_of_find?_eq_some found
  · cases routed

/-- Only the fallback's own name and an outcome without a transition are refused;
a step with a fallback refuses no other outcome. -/
theorem Step.transitionFor_eq_error {step : Step} {id : StepId} {outcome : String}
    {error : RunError} (failed : step.transitionFor id outcome = .error error) :
    error = .reservedOutcome id outcome ∨
      error = .noTransition id outcome ∧
        ∀ transition ∈ step.transitions, transition.onOutcome ≠ fallbackOutcome := by
  unfold Step.transitionFor at failed
  split at failed
  · cases failed
    exact Or.inl rfl
  split at failed
  · cases failed
  split at failed
  · cases failed
  · rename_i missing
    cases failed
    refine Or.inr ⟨rfl, ?_⟩
    intro transition member
    simpa using List.find?_eq_none.mp missing transition member

variable {σ : Type} {engine : Engine σ} {session later : Session σ}

/-- A run of a well-formed manifest that stands at declared steps still does after
an action that refers to what is declared. -/
theorem declared_everywhere_after {manifest : Manifest} {current : StepId} {stack : CallStack}
    {action : Action} {place : Continuation} (resolves : manifest.Resolves action)
    (declared : Continuation.Everywhere manifest.Declares ⟨some current, stack⟩)
    (reduced : action.reduce manifest current stack = .ok place) :
    place.Everywhere manifest.Declares := by
  refine Action.reduce_everywhere declared ?_ ?_ ?_ reduced
  · rintro target rfl
    exact resolves
  · intro group entry _ entered
    exact Manifest.declares_of_entryOf entered
  · exact fun _ => Manifest.declares_of_stepAfter

/-- An action that refers to what is declared can be followed from a declared step. -/
theorem reduce_of_resolves {manifest : Manifest} {current : StepId} (stack : CallStack)
    {action : Action} (names : manifest.validateNames = .ok ())
    (declared : manifest.Declares current) (resolves : manifest.Resolves action) :
    ∃ place, action.reduce manifest current stack = .ok place := by
  cases action with
  | jump target => exact ⟨_, rfl⟩
  | call group =>
    obtain ⟨entry, entered⟩ := resolves
    obtain ⟨behind, following⟩ := Manifest.stepAfter_of_declares names declared
    exact ⟨_, Action.reduce_call_eq_ok.mpr ⟨entry, behind, entered, following, rfl⟩⟩
  | goBack => exact ⟨_, rfl⟩

/-- Preservation: standing at declared steps is an invariant of well-formed manifests. -/
theorem Manifest.WellFormed.maintains_declared {manifest : Manifest} (well : manifest.WellFormed) :
    manifest.Maintains fun state => state.place.Everywhere manifest.Declares := by
  intro σ engine session later result same declared ran
  subst same
  cases Engine.iterates ran with
  | undispatched => exact declared
  | unanswered => exact declared
  | unrouted => exact declared
  | advanced dispatched replied followed =>
    obtain ⟨id, step, _, _, waiting, found, _, _, rfl⟩ := Engine.dispatch_eq_ok.mp dispatched
    obtain ⟨transition, action, place, routed, read, reduced, rfl⟩ :=
      RunState.advance_eq_ok.mp followed
    obtain ⟨resolved, reread, resolves⟩ :=
      well.actions id step found transition (Step.mem_of_transitionFor routed)
    rw [read] at reread
    cases reread
    simp only [RunState.place, waiting] at declared
    exact declared_everywhere_after resolves declared reduced

/-- An order for a declared step fails over its artifacts alone. -/
theorem Engine.dispatch_blameless
    (declared : session.run.place.Everywhere engine.manifest.Declares) {error : RunError}
    (failed :
      engine.dispatch session.run session.service session.workspace.files = .error error) :
    ¬ error.BlamesManifest ∧ ∀ id outcome, error ≠ .noTransition id outcome := by
  rcases Engine.dispatch_eq_error failed with ⟨_, rfl⟩ | ⟨id, waiting, reasons⟩
  · exact ⟨nofun, nofun⟩
  have here : engine.manifest.Declares id := declared.next id waiting
  rcases reasons with missing | ⟨step, _, unread⟩ | ⟨step, artifacts, _, unbuilt⟩
  · obtain ⟨step, found⟩ := here
    rw [found] at missing
    cases missing
  · obtain ⟨path, _, failure, _, rfl⟩ := Step.readArtifacts_eq_error unread
    exact ⟨nofun, nofun⟩
  · have callers : ∀ frame ∈ session.run.stack, engine.manifest.HasGroup frame.caller.group :=
      fun frame member => (declared.callers frame member).hasGroup
    obtain ⟨context, built⟩ := Manifest.context_of_declares
      (engine.situation session.run session.service id step artifacts) here callers
    rw [built] at unbuilt
    cases unbuilt

/-- An outcome of a declared step fails only for want of a transition. -/
theorem Manifest.WellFormed.advance_blameless {manifest : Manifest} (well : manifest.WellFormed)
    {state : RunState} {dispatch : Dispatch}
    (found : manifest.step dispatch.id = .ok dispatch.step) {outcome : String} {error : RunError}
    (failed : state.advance manifest dispatch outcome = .error error) :
    ¬ error.BlamesManifest ∧
      (manifest.HasFallbacks → ∀ id outcome, error ≠ .noTransition id outcome) := by
  rcases RunState.advance_eq_error failed with unrouted | ⟨transition, routed, unfollowed⟩
  · rcases Step.transitionFor_eq_error unrouted with rfl | ⟨rfl, without⟩
    · exact ⟨nofun, nofun⟩
    · refine ⟨nofun, fun fallbacks => ?_⟩
      obtain ⟨transition, member, fallback⟩ := fallbacks dispatch.id dispatch.step found
      exact absurd fallback (without transition member)
  · obtain ⟨action, read, resolves⟩ :=
      well.actions dispatch.id dispatch.step found transition (Step.mem_of_transitionFor routed)
    have here : manifest.Declares dispatch.id := ⟨dispatch.step, found⟩
    rcases Action.interpret_eq_error unfollowed with ⟨_, unread, _⟩ | ⟨reread, same, unreduced⟩
    · rw [read] at unread
      cases unread
    · rw [read] at same
      cases same
      obtain ⟨place, reduced⟩ := reduce_of_resolves state.stack well.names here resolves
      exact absurd (reduced.symm.trans unreduced) nofun

/-- Progress: an iteration from declared steps fails for no reason in the manifest
but an outcome without a transition, and with fallbacks not even for that. -/
theorem Manifest.WellFormed.iteration_blameless (well : engine.manifest.WellFormed)
    (declared : session.run.place.Everywhere engine.manifest.Declares) {error : RunError}
    (ran : engine.runStep session = (.error error, later)) :
    ¬ error.BlamesManifest ∧
      (engine.manifest.HasFallbacks → ∀ id outcome, error ≠ .noTransition id outcome) := by
  cases Engine.iterates ran with
  | undispatched failed =>
    obtain ⟨blameless, routed⟩ := Engine.dispatch_blameless declared failed
    exact ⟨blameless, fun _ => routed⟩
  | unanswered => exact ⟨nofun, nofun⟩
  | unrouted dispatched replied failed =>
    obtain ⟨id, step, _, _, _, found, _, _, rfl⟩ := Engine.dispatch_eq_ok.mp dispatched
    exact well.advance_blameless found failed

/-- In every run of a well-formed manifest, whatever executors, files, pauses and
limits it meets, no call blames the manifest; with fallbacks, no outcome is ever
left without a transition either. -/
theorem well_formed_runs_stay_safe {manifest : Manifest} {group : String} {entry : StepId}
    (well : manifest.WellFormed) (entered : manifest.entryOf group = .ok entry)
    {result : Except RunError Completion} {state : RunState}
    (called : Called manifest group result state) {error : RunError}
    (failed : result = .error error) :
    ¬ error.BlamesManifest ∧
      (manifest.HasFallbacks → ∀ id outcome, error ≠ .noTransition id outcome) := by
  have begins : manifest.Begins group entry := ⟨well.names, entered⟩
  have start : ∀ runId,
      (RunState.startingAt runId entry).place.Everywhere manifest.Declares := by
    intro runId
    refine ⟨?_, nofun, nofun⟩
    rintro _ ⟨⟩
    exact Manifest.declares_of_entryOf entered
  have invariant := called.invariant (P := fun state => state.place.Everywhere manifest.Declares)
    begins start well.maintains_declared
  have fails := invariant.2 error failed
  cases fails with
  | nothingToResume => exact ⟨nofun, nofun⟩
  | limited => exact ⟨nofun, nofun⟩
  | iteration same declared ran =>
    subst same
    exact well.iteration_blameless declared ran

/-- The roundabout goes round safely. -/
theorem roundabout_stays_safe : roundabout.WellFormed ∧
    ¬ (RunError.stepLimitExceeded 3).BlamesManifest ∧
      (roundabout.HasFallbacks →
        ∀ id outcome, RunError.stepLimitExceeded 3 ≠ .noTransition id outcome) := by
  have well : roundabout.WellFormed := by decide
  have entered : roundabout.entryOf "Main" = .ok ⟨"Main", "A"⟩ := by decide
  exact ⟨well, well_formed_runs_stay_safe well entered (.run rfl roundabout_is_limited) rfl⟩

end StepGraph
