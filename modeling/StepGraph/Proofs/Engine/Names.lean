import StepGraph.Proofs.Engine.Orders
import StepGraph.Proofs.Engine.Safety
import StepGraph.Proofs.Engine.Sequence

/-! Where ill-formed names are found. The check in front of a call goes through the declared
steps, so that nothing that is made of their names can fail later. What it passes over is the
entry step that a group names without declaring it, as a group without steps always does: such a
group is only looked at when it is entered, by `run` or by a call that an outcome leads to. -/
namespace StepGraph

namespace Manifest

variable {manifest : Manifest} {name : String} {invalid : StepId.Invalid}

/-- The group of that name is there, but forms no id with the entry step it names. -/
def Misnames (manifest : Manifest) (name : String) (invalid : StepId.Invalid) : Prop :=
  ∃ group, manifest.groups.get? name = some group ∧
    StepId.ofParts name group.entryStep = .error invalid

private theorem misnames_of_entryOf
    (failed : manifest.entryOf name = .error (.invalidStepId invalid)) :
    manifest.Misnames name invalid := by
  unfold entryOf at failed
  rcases bind_eq_error.mp failed with missing | ⟨group, found, failed⟩
  · obtain ⟨_, impossible⟩ := group_eq_error.mp missing
    cases impossible
  rcases bind_eq_error.mp failed with unformed | ⟨id, _, failed⟩
  · obtain ⟨_, formed, same⟩ := mapError_eq_error.mp unformed
    cases same
    exact ⟨group, group_eq_ok.mp found, formed⟩
  · split at failed <;> cases failed

/-- Once names have been checked, only an undeclared entry step can form no id. -/
theorem Misnames.undeclared (misnames : manifest.Misnames name invalid)
    (names : manifest.validateNames = .ok ()) :
    ∃ group, manifest.groups.get? name = some group ∧ group.entryStep ∉ group.steps.keys := by
  obtain ⟨group, found, unformed⟩ := misnames
  refine ⟨group, found, fun declared => ?_⟩
  have formed := ofParts_of_mem_keys names found declared
  cases formed.symm.trans unformed

/-- A declared step whose names form no id does not pass the check. -/
theorem validateNames_of_unformed {id : StepId} (declared : manifest.Declares id)
    (unformed : StepId.ofParts id.group id.step = .error invalid) :
    ∃ first, manifest.validateNames = .error (.invalidStepId first) := by
  cases found : manifest.invalidName? with
  | some first => exact ⟨first, by rw [validateNames, found]⟩
  | none =>
    have passes : manifest.validateNames = .ok () := by rw [validateNames, found]
    cases (ofParts_of_validateNames passes declared).symm.trans unformed

/-- Some transition of the step calls a group whose name forms no id with its entry step, which
is not declared. -/
def CallsMisnamed (manifest : Manifest) (id : StepId) (invalid : StepId.Invalid) : Prop :=
  ∃ step transition name group, manifest.step id = .ok step ∧ transition ∈ step.transitions ∧
    Action.parse transition.action = .ok (.call name) ∧ manifest.groups.get? name = some group ∧
    group.entryStep ∉ group.steps.keys ∧ StepId.ofParts name group.entryStep = .error invalid

end Manifest

variable {σ : Type} {engine : Engine σ} {session later final : Session σ} {asked : Call}
  {invalid : StepId.Invalid}

/-- Behind a declared step, only a call of a misnamed group fails over a name. -/
theorem RunState.misnamed_of_advance {manifest : Manifest} {state : RunState} {dispatch : Dispatch}
    {outcome : String} (names : manifest.validateNames = .ok ())
    (found : manifest.step dispatch.id = .ok dispatch.step)
    (failed : state.advance manifest dispatch outcome = .error (.invalidStepId invalid)) :
    manifest.CallsMisnamed dispatch.id invalid := by
  rcases RunState.advance_eq_error failed with unrouted | ⟨transition, routed, unfollowed⟩
  · rcases Step.transitionFor_eq_error unrouted with impossible | ⟨impossible, _⟩
    · cases impossible
    · cases impossible
  rcases Action.interpret_eq_error unfollowed with ⟨_, _, impossible⟩ | ⟨action, read, unreduced⟩
  · cases impossible
  cases action with
  | jump target => cases unreduced
  | goBack => cases unreduced
  | call name =>
    -- The names behind the calling step have been checked; those of the group need not have been.
    rcases Action.reduce_call_eq_error unreduced with unentered | unframed
    · have misnames := Manifest.misnames_of_entryOf unentered
      obtain ⟨group, there, undeclared⟩ := misnames.undeclared names
      obtain ⟨_, again, unformed⟩ := misnames
      cases there.symm.trans again
      exact ⟨dispatch.step, transition, name, group, found, Step.mem_of_transitionFor routed,
        read, there, undeclared, unformed⟩
    · obtain ⟨_, follows⟩ := Manifest.stepAfter_of_declares names ⟨_, found⟩
      cases follows.symm.trans unframed

/-- An iteration that fails over a name has handed out the order of a step that calls a misnamed
group, and leaves the run at that step. -/
theorem Engine.misnamed_of_runStep (names : engine.manifest.validateNames = .ok ())
    (ran : engine.runStep session = (.error (.invalidStepId invalid), later)) :
    (∃ order, later.dispatched = session.dispatched ++ [order]) ∧
      ∃ id, later.run.current = some id ∧ engine.manifest.CallsMisnamed id invalid := by
  cases Engine.iterates ran with
  | undispatched failed =>
    rcases Engine.undispatched_cases failed with impossible | impossible | ⟨_, _, _, impossible⟩
    · cases impossible
    · exact impossible.elim
    · cases impossible
  | unrouted dispatched replied failed =>
    have added := Engine.dispatched_of_execute replied
    obtain ⟨id, step, _, _, waiting, found, _, _, rfl⟩ := Engine.dispatch_eq_ok.mp dispatched
    exact ⟨⟨_, added⟩, id, waiting, RunState.misnamed_of_advance names found failed⟩

/-- A call that is refused over a name although the names have been checked is a call of `run`
for a misnamed group. -/
theorem Engine.misnamed_of_refused (names : engine.manifest.validateNames = .ok ())
    (refused : engine.opening session asked = .error (.invalidStepId invalid)) :
    ∃ runId group, asked = .run runId group ∧ engine.manifest.Misnames group invalid := by
  cases Engine.refuses_of_opening refused with
  | names impossible => cases names.symm.trans impossible
  | group _ unentered => exact ⟨_, _, rfl, Manifest.misnames_of_entryOf unentered⟩

/-- A loop that ends over a name has handed out an order, the last one for a step that calls a
misnamed group. -/
theorem Engine.misnamed_of_drive {fuel : Nat} (names : engine.manifest.validateNames = .ok ())
    (driven : engine.drive fuel session = some (.error (.invalidStepId invalid), final)) :
    session.dispatched.length < final.dispatched.length ∧
      ∃ id, final.run.current = some id ∧ engine.manifest.CallsMisnamed id invalid := by
  obtain ⟨_, last, _, passes, stopped⟩ := Engine.drive_eq_some_iff.mp driven
  have before : session.dispatched.length ≤ last.dispatched.length := by
    refine passes.keeps (P := fun later => session.dispatched.length ≤ later.dispatched.length)
      ?_ (Nat.le_refl _)
    intro later next kept goes
    obtain ⟨_, _, added⟩ := Engine.dispatched_of_go goes
    rw [added, List.length_append]
    exact Nat.le_add_right_of_le kept
  cases Engine.turn_eq_stop_iff.mp stopped with
  | failed _ _ _ ran =>
    obtain ⟨⟨order, added⟩, misnamed⟩ := Engine.misnamed_of_runStep names ran
    refine ⟨?_, misnamed⟩
    rw [added, List.length_append]
    exact Nat.lt_succ_of_le before

/-- Where ill-formed names are found. If the names of some declared step form no id, every call
is refused, and nothing is handed out. If they all do, a call that fails over a name is refused
for the group it asks for, and leaves everything as it was; or it stands at a declared step that
calls a group without the entry step it names, and has handed out the order of that step. So no
name is found to be ill-formed once work has begun, unless some step calls such a group. -/
theorem malformed_names_hide_in_called_groups (engine : Engine σ) :
    (∀ id invalid, engine.manifest.Declares id →
      StepId.ofParts id.group id.step = .error invalid →
      ∃ first, ∀ fuel session asked, (asked = .resume → session.run.isFinished = false) →
        engine.call fuel session asked = some (.error (.invalidStepId first), session)) ∧
    (engine.manifest.validateNames = .ok () → ∀ fuel session asked invalid final,
      engine.call fuel session asked = some (.error (.invalidStepId invalid), final) →
      (final = session ∧
        ∃ runId group, asked = .run runId group ∧ engine.manifest.Misnames group invalid) ∨
      (session.dispatched.length < final.dispatched.length ∧
        ∃ id, final.run.current = some id ∧ engine.manifest.CallsMisnamed id invalid)) := by
  constructor
  · intro id invalid declared unformed
    obtain ⟨first, fails⟩ := Manifest.validateNames_of_unformed declared unformed
    refine ⟨first, fun fuel session asked unfinished => Engine.call_of_refused ?_⟩
    cases asked with
    | run runId group =>
      simp [Engine.opening, Manifest.entrance, fails, bind, Except.bind]
    | resume =>
      simp [Engine.opening, unfinished rfl, fails, bind, Except.bind]
  · intro names fuel session asked invalid final called
    cases opens : engine.opening session asked with
    | error error =>
      rw [Engine.call_of_refused opens] at called
      cases called
      exact Or.inl ⟨rfl, Engine.misnamed_of_refused names opens⟩
    | ok begun =>
      rw [Engine.call_of_opening opens] at called
      obtain ⟨more, misnamed⟩ := Engine.misnamed_of_drive names called
      rw [Engine.restarted_of_opening opens] at more
      exact Or.inr ⟨more, misnamed⟩

/-- A step that calls a group with a separator in its name and without steps. -/
def misnamed : Manifest :=
  .small [("Main", [("A", .routing [⟨"SUCCESS", "CALL:Bad__Sub"⟩])]), ("Bad__Sub", [])]

/-- An engine that runs it. -/
def misnamedEngine : Engine Replies := ⟨misnamed, Replies.service, "/work", none, []⟩

/-- A session in which its step succeeds. -/
def misnamedSession : Session Replies :=
  Engine.newSession ⟨[⟨false, none, .append [], "SUCCESS"⟩], []⟩ ⟨.fresh ["work"], false⟩

/-- Why the group cannot be called. -/
def misnamedGroup : StepId.Invalid := ⟨"Bad__Sub__A", .separatorInName⟩

/-- The session in which that is found. -/
def misnamedEnd : Session Replies :=
  misnamedSession.after (misnamedEngine.run 5 "run-1" "Main" misnamedSession)

private theorem misnamed_ends : misnamedEngine.call 5 misnamedSession (.run "run-1" "Main") =
    some (.error (.invalidStepId misnamedGroup), misnamedEnd) :=
  Session.eq_some_after (by decide)

/-- The run stands at the step that calls the group, whose order has been handed out. -/
theorem misnamed_group_is_called :
    misnamed.validateNames = .ok () ∧
      misnamedSession.dispatched.length < misnamedEnd.dispatched.length ∧
      ∃ id, misnamedEnd.run.current = some id ∧ misnamed.CallsMisnamed id misnamedGroup := by
  have names : misnamed.validateNames = .ok () := by decide
  have more : misnamedSession.dispatched.length < misnamedEnd.dispatched.length := by
    decide
  have found := (malformed_names_hide_in_called_groups misnamedEngine).2 names _ _ _ _ _
    misnamed_ends
  rcases found with ⟨kept, _⟩ | ⟨_, misnames⟩
  · rw [kept] at more
    exact absurd more (Nat.lt_irrefl _)
  · exact ⟨names, more, misnames⟩

/-- The check passes, work begins, and the name of a group is found to be ill-formed behind it. -/
theorem malformed_name_is_found_late :
    misnamed.validateNames = .ok () ∧
      misnamedEngine.call 5 misnamedSession (.run "run-1" "Main") =
        some (.error (.invalidStepId misnamedGroup), misnamedEnd) ∧
      misnamedEnd.dispatched.map WorkOrder.executor = ["tool"] :=
  ⟨by decide, misnamed_ends, by decide⟩

end StepGraph
