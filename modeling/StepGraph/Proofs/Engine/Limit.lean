import StepGraph.Proofs.Engine.History
import StepGraph.Proofs.Engine.Reached
import StepGraph.Proofs.Engine.Sequence

/-! The limit on iterations. It is looked at before a turn and has no other part in it: nothing
is handed out, shown or changed when it stops the loop. So a run that it has stopped stands
where a run with more room passes by, and goes on from there in the same way. As each turn
that goes on counts an iteration, no call outlasts the limit. -/
namespace StepGraph

variable {σ : Type} {engine : Engine σ} {session next final last : Session σ} {limit fuel : Nat}
  {more : Option Nat} {result : Except RunError Completion}

/-- The loop stands before a step, no pause is requested, and as many iterations have been
made as the limit allows. -/
structure Session.AtLimit (session : Session σ) (limit : Nat) : Prop where
  waiting : ∃ current, session.run.current = some current
  unasked : session.workspace.pauseRequested = false
  reached : limit ≤ session.run.iterations

namespace Engine

/-- The engine with another limit, or with none. -/
def withLimit (engine : Engine σ) (more : Option Nat) : Engine σ := { engine with maxSteps := more }

private theorem limitReached?_eq_some {reached : Nat} :
    engine.limitReached? session.run = some reached ↔
      engine.maxSteps = some reached ∧ reached ≤ session.run.iterations := by
  rw [limitReached?, Option.filter_eq_some_iff, decide_eq_true_iff]

private theorem limitReached?_eq_none :
    engine.limitReached? session.run = none ↔
      ∀ bound, engine.maxSteps = some bound → session.run.iterations < bound := by
  rw [limitReached?, Option.filter_eq_none_iff]
  simp

/-- What an iteration fails with is never the limit. -/
theorem ne_limit_of_runStep {error : RunError} {later : Session σ}
    (ran : engine.runStep session = (.error error, later)) (reached : Nat) :
    error ≠ .stepLimitExceeded reached := by
  have blamed (structural : error.isStructural = true) : error ≠ .stepLimitExceeded reached := by
    rintro rfl
    cases structural
  cases Engine.iterates ran with
  | undispatched failed =>
    rcases Engine.undispatched_cases failed with rfl | undeclared | ⟨_, _, _, rfl⟩
    · nofun
    · exact blamed undeclared.isStructural
    · nofun
  | unanswered => nofun
  | unrouted _ _ failed =>
    rcases RunState.advance_eq_error failed with unrouted | ⟨_, _, unfollowed⟩
    · rcases Step.transitionFor_eq_error unrouted with rfl | ⟨rfl, _⟩
      · nofun
      · nofun
    · exact blamed (Action.isStructural_of_interpret unfollowed)

/-- The limit stops the loop exactly where it stands at the limit, and leaves everything as
it is. -/
theorem turn_eq_limited_iff {reached : Nat} :
    engine.turn session = .stop (.error (.stepLimitExceeded reached)) final ↔
      engine.maxSteps = some reached ∧ session.AtLimit reached ∧ final = session := by
  constructor
  · intro stopped
    cases Engine.turn_eq_stop_iff.mp stopped with
    | limited waiting unasked limited =>
      obtain ⟨bound, reached⟩ := limitReached?_eq_some.mp limited
      exact ⟨bound, ⟨⟨_, waiting⟩, unasked, reached⟩, rfl⟩
    | failed _ _ _ ran => exact absurd rfl (ne_limit_of_runStep ran reached)
  · rintro ⟨bound, ⟨⟨current, waiting⟩, unasked, reached⟩, rfl⟩
    exact Engine.turn_eq_stop_iff.mpr
      (.limited waiting unasked (limitReached?_eq_some.mpr ⟨bound, reached⟩))

/-- Where the limit leaves room, a higher one does. -/
theorem room_withLimit (bound : engine.maxSteps = some limit)
    (higher : ∀ allowed ∈ more, limit ≤ allowed) (below : engine.limitReached? session.run = none) :
    (engine.withLimit more).limitReached? session.run = none := by
  refine limitReached?_eq_none.mpr fun allowed given => ?_
  exact Nat.lt_of_lt_of_le (limitReached?_eq_none.mp below limit bound) (higher allowed given)

/-- With more room, a turn that goes on goes on in the same way. -/
theorem turn_go_withLimit (bound : engine.maxSteps = some limit)
    (higher : ∀ allowed ∈ more, limit ≤ allowed) (goes : engine.turn session = .go next) :
    (engine.withLimit more).turn session = .go next := by
  obtain ⟨current, later, waiting, unasked, below, ran, shown⟩ := Engine.turn_eq_go_iff.mp goes
  exact Engine.turn_eq_go_iff.mpr
    ⟨current, later, waiting, unasked, room_withLimit bound higher below, ran, shown⟩

/-- With more room, a turn that stops for another reason stops in the same way. -/
theorem turn_stop_withLimit (bound : engine.maxSteps = some limit)
    (higher : ∀ allowed ∈ more, limit ≤ allowed)
    (other : result ≠ .error (.stepLimitExceeded limit))
    (stopped : engine.turn session = .stop result final) :
    (engine.withLimit more).turn session = .stop result final := by
  refine Engine.turn_eq_stop_iff.mpr ?_
  cases Engine.turn_eq_stop_iff.mp stopped with
  | completed ended => exact .completed ended
  | paused waiting requested => exact .paused waiting requested
  | limited _ _ reached =>
    obtain ⟨same, _⟩ := limitReached?_eq_some.mp reached
    cases bound.symm.trans same
    exact absurd rfl other
  | failed waiting unasked below ran =>
    exact .failed waiting unasked (room_withLimit bound higher below) ran

private theorem Passes.withLimit {count : Nat} (bound : engine.maxSteps = some limit)
    (higher : ∀ allowed ∈ more, limit ≤ allowed) (passes : engine.Passes count session last) :
    (engine.withLimit more).Passes count session last := by
  induction passes with
  | none => exact .none _
  | more goes _ ih => exact .more (turn_go_withLimit bound higher goes) ih

private theorem drive_of_stop (stopped : engine.turn session = .stop result final) :
    engine.drive 1 session = some (result, final) := by
  rw [Engine.drive_succ, stopped]

/-- Turns that go on lead to where the rest is driven. -/
theorem Passes.drives {count : Nat} (passes : engine.Passes count session next)
    {outcome : Except RunError Completion × Session σ} :
    (∃ fuel, engine.drive fuel session = some outcome) ↔
      ∃ fuel, engine.drive fuel next = some outcome := by
  obtain ⟨result, final⟩ := outcome
  constructor
  · rintro ⟨fuel, driven⟩
    obtain ⟨total, last, _, full, stopped⟩ := Engine.drive_eq_some_iff.mp driven
    obtain ⟨further, _, rest⟩ := passes.remaining full stopped
    exact ⟨further + 1, Engine.drive_eq_some_iff.mpr
      ⟨further, last, Nat.lt_succ_self _, rest, stopped⟩⟩
  · rintro ⟨fuel, driven⟩
    obtain ⟨further, last, _, rest, stopped⟩ := Engine.drive_eq_some_iff.mp driven
    exact ⟨count + further + 1, Engine.drive_eq_some_iff.mpr
      ⟨count + further, last, Nat.lt_succ_self _, passes.trans rest, stopped⟩⟩

/-- The loop stops after as many turns as the limit leaves room for, if not before. -/
theorem drive_ends (bound : engine.maxSteps = some limit)
    (paid : limit - session.run.iterations < fuel) :
    ∃ result final, engine.drive fuel session = some (result, final) := by
  induction fuel generalizing session with
  | zero => cases paid
  | succ fuel ih =>
    rw [Engine.drive_succ]
    cases turn : engine.turn session with
    | stop result final => exact ⟨result, final, rfl⟩
    | go next =>
      obtain ⟨counts, below⟩ := Stage.counts_of_go turn
      have room := limitReached?_eq_none.mp below limit bound
      exact ih (by omega)

/-- Driving comes to the limit exactly by turns that lead there. -/
theorem drive_limited_iff {reached : Nat} :
    (∃ fuel, engine.drive fuel session = some (.error (.stepLimitExceeded reached), final)) ↔
      engine.maxSteps = some reached ∧ final.AtLimit reached ∧
        ∃ count, engine.Passes count session final := by
  constructor
  · rintro ⟨fuel, driven⟩
    obtain ⟨count, last, _, passes, stopped⟩ := Engine.drive_eq_some_iff.mp driven
    obtain ⟨bound, atLimit, rfl⟩ := turn_eq_limited_iff.mp stopped
    exact ⟨bound, atLimit, count, passes⟩
  · rintro ⟨bound, atLimit, count, passes⟩
    exact ⟨count + 1, Engine.drive_eq_some_iff.mpr ⟨count, final, Nat.lt_succ_self _, passes,
      turn_eq_limited_iff.mpr ⟨bound, atLimit, rfl⟩⟩⟩

/-! ## Calls under a limit -/

variable {asked first : Call} {begun : Session σ} {results : List (Except RunError Completion)}

/-- A call is never refused for the limit. -/
theorem ne_limit_of_refused {error : RunError}
    (refused : engine.opening session asked = .error error) (reached : Nat) :
    error ≠ .stepLimitExceeded reached := by
  rintro rfl
  rcases opening_eq_error refused with impossible | impossible
  · cases impossible
  · cases impossible

/-- A call is stopped by the limit exactly when the loop comes to stand at the limit, and then
leaves the session in which it stands. -/
theorem call_limited_iff {reached : Nat} :
    (∃ fuel, engine.call fuel session asked = some (.error (.stepLimitExceeded reached), final)) ↔
      engine.maxSteps = some reached ∧ final.AtLimit reached ∧ ∃ begun count,
        engine.opening session asked = .ok begun ∧ engine.Passes count begun final := by
  cases opens : engine.opening session asked with
  | error error =>
    constructor
    · rintro ⟨fuel, called⟩
      rw [call_of_refused opens] at called
      cases called
      exact absurd rfl (ne_limit_of_refused opens reached)
    · rintro ⟨_, _, _, _, impossible, _⟩
      cases impossible
  | ok begun =>
    simp only [call_of_opening opens, drive_limited_iff, Except.ok.injEq, exists_and_left,
      exists_eq_left']

/-- At the limit a run is resumed where it stands. -/
theorem call_resume_atLimit (atLimit : session.AtLimit limit)
    (names : engine.manifest.validateNames = .ok ()) :
    engine.call fuel session .resume = engine.drive fuel session := by
  obtain ⟨current, waiting⟩ := atLimit.waiting
  have same : session.restarted session.run = session := by
    have clear : session.workspace.clearPause = session.workspace := by
      rw [Workspace.clearPause, ← atLimit.unasked]
    rw [Session.restarted, clear]
  refine (Engine.resume_of_current waiting names).trans ?_
  rw [same]

/-- With more room, a call that the limit does not stop comes to the same. One that it stops
goes on from there. -/
theorem call_withLimit (bound : engine.maxSteps = some limit)
    (higher : ∀ allowed ∈ more, limit ≤ allowed)
    (called : engine.call fuel session asked = some (result, final)) :
    (result ≠ .error (.stepLimitExceeded limit) ∧
        ∃ further, (engine.withLimit more).call further session asked = some (result, final)) ∨
      (result = .error (.stepLimitExceeded limit) ∧ final.AtLimit limit ∧
        engine.manifest.validateNames = .ok () ∧
        ∀ outcome, (∃ further, (engine.withLimit more).call further session asked = some outcome) ↔
          ∃ further, (engine.withLimit more).drive further final = some outcome) := by
  cases opens : engine.opening session asked with
  | error error =>
    have again : (engine.withLimit more).opening session asked = .error error := opens
    cases called.symm.trans (call_of_refused opens)
    refine Or.inl ⟨fun limited => ?_, fuel, call_of_refused again⟩
    exact ne_limit_of_refused opens limit (Except.error.inj limited)
  | ok begun =>
    have again : (engine.withLimit more).opening session asked = .ok begun := opens
    rw [call_of_opening opens] at called
    simp only [call_of_opening again]
    obtain ⟨count, last, paid, passes, stopped⟩ := Engine.drive_eq_some_iff.mp called
    have passesOn := passes.withLimit bound higher
    by_cases limited : result = .error (.stepLimitExceeded limit)
    · subst limited
      obtain ⟨_, atLimit, rfl⟩ := turn_eq_limited_iff.mp stopped
      exact Or.inr ⟨rfl, atLimit, names_of_opening opens, fun _ => passesOn.drives⟩
    · have stops := turn_stop_withLimit bound higher limited stopped
      exact Or.inl ⟨limited, fuel,
        Engine.drive_eq_some_iff.mpr ⟨count, last, paid, passesOn, stops⟩⟩

/-- With more room, calls in a row come to the same as long as the limit does not stop them.
Calls that it stops fall away: the call before them goes on where they are. -/
theorem Calls.withLimit (bound : engine.maxSteps = some limit)
    (higher : ∀ allowed ∈ more, limit ≤ allowed)
    (calls : engine.Calls session first results final) :
    (results.head? ≠ some (.error (.stepLimitExceeded limit)) ∧
        (engine.withLimit more).Calls session first
          (results.filter (· ≠ .error (.stepLimitExceeded limit))) final) ∨
      (results.head? = some (.error (.stepLimitExceeded limit)) ∧ final.AtLimit limit ∧
        engine.manifest.validateNames = .ok () ∧
        ∀ result last, (∃ further, (engine.withLimit more).drive further final =
            some (result, last)) ↔
          (engine.withLimit more).Calls session first
            (result :: results.filter (· ≠ .error (.stepLimitExceeded limit))) last) := by
  induction calls with
  | first called =>
    rcases call_withLimit bound higher called with
      ⟨other, _, again⟩ | ⟨rfl, atLimit, names, goesOn⟩
    · refine Or.inl ⟨by simpa using other, ?_⟩
      simpa [other] using Calls.first again
    · refine Or.inr ⟨rfl, atLimit, names, fun result last => ?_⟩
      rw [← goesOn]
      simpa using calls_singleton_iff.symm
  | resume before called ih =>
    rcases ih with ⟨_, kept⟩ | ⟨_, stands, named, goesOn⟩
    · rcases call_withLimit bound higher called with
        ⟨other, _, again⟩ | ⟨rfl, atLimit, names, onward⟩
      · refine Or.inl ⟨by simpa using other, ?_⟩
        simpa [other] using Calls.resume kept again
      · refine Or.inr ⟨rfl, atLimit, names, fun result last => ?_⟩
        rw [← onward]
        simpa using kept.cons_iff.symm
    · -- The limit stops the call again before anything else is done.
      rw [call_resume_atLimit stands named] at called
      have stopped := turn_eq_limited_iff.mpr ⟨bound, stands, rfl⟩
      cases Engine.drive_unique called (drive_of_stop stopped)
      exact Or.inr ⟨rfl, stands, named, by simpa using goesOn⟩

/-! ## The limit kept -/

/-- An engine keeps a limit exactly. -/
structure KeepsLimit (engine : Engine σ) (limit : Nat) : Prop where
  /-- Every call ends. -/
  ends : ∀ session asked, ∃ result final,
    engine.call (limit + 1) session asked = some (result, final)
  /-- The limit stops a call exactly when the loop comes to stand before a step with no pause
  requested and that many iterations made; the call leaves the session in which it stands. -/
  exceeds : ∀ session asked reached final,
    (∃ fuel, engine.call fuel session asked = some (.error (.stepLimitExceeded reached), final)) ↔
      reached = limit ∧ final.AtLimit limit ∧ ∃ begun count,
        engine.opening session asked = .ok begun ∧ engine.Passes count begun final
  /-- A call whose last iteration ends the run completes it, also when that iteration was the
  last one that the limit allows. -/
  completes : ∀ session asked begun count last, engine.opening session asked = .ok begun →
    engine.Passes count begun last → last.run.current = none → ∃ fuel,
      engine.call fuel session asked =
        some (.ok (.completed last.run.iterations), engine.publish last .completed)
  /-- When the limit has stopped a run, `resume` on an engine with more room comes to what the
  calls come to on that engine from the start, without those that the limit has stopped. -/
  continues : ∀ session first results final,
    engine.Calls session first (.error (.stepLimitExceeded limit) :: results) final →
    ∀ more : Option Nat, (∀ allowed ∈ more, limit ≤ allowed) → ∀ result last,
      (∃ fuel, (engine.withLimit more).call fuel final .resume = some (result, last)) ↔
        (engine.withLimit more).Calls session first
          (result :: results.filter (· ≠ .error (.stepLimitExceeded limit))) last

private theorem call_ends (bound : engine.maxSteps = some limit) (session : Session σ)
    (asked : Call) :
    ∃ result final, engine.call (limit + 1) session asked = some (result, final) := by
  cases opens : engine.opening session asked with
  | error error => exact ⟨_, _, call_of_refused opens⟩
  | ok begun =>
    rw [call_of_opening opens]
    exact drive_ends bound (by omega)

private theorem call_completes {count : Nat} (opens : engine.opening session asked = .ok begun)
    (passes : engine.Passes count begun last) (ended : last.run.current = none) :
    engine.call (count + 1) session asked =
      some (.ok (.completed last.run.iterations), engine.publish last .completed) := by
  rw [call_of_opening opens]
  exact Engine.drive_eq_some_iff.mpr ⟨count, last, Nat.lt_succ_self _, passes,
    Engine.turn_eq_stop_iff.mpr (.completed ended)⟩

/-- A run that the limit has stopped goes on with more room as if it had been there before. -/
theorem Calls.continues (bound : engine.maxSteps = some limit)
    (higher : ∀ allowed ∈ more, limit ≤ allowed)
    (calls : engine.Calls session first (.error (.stepLimitExceeded limit) :: results) final) :
    (∃ fuel, (engine.withLimit more).call fuel final .resume = some (result, last)) ↔
      (engine.withLimit more).Calls session first
        (result :: results.filter (· ≠ .error (.stepLimitExceeded limit))) last := by
  rcases calls.withLimit bound higher with ⟨other, _⟩ | ⟨_, atLimit, names, goesOn⟩
  · exact absurd rfl other
  · have again : (engine.withLimit more).manifest.validateNames = .ok () := names
    simp only [call_resume_atLimit atLimit again]
    simpa using goesOn result last

private theorem keepsLimit (bound : engine.maxSteps = some limit) : engine.KeepsLimit limit where
  ends := call_ends bound
  exceeds session asked reached final := by
    rw [call_limited_iff, bound, Option.some.injEq]
    constructor
    · rintro ⟨rfl, atLimit, way⟩
      exact ⟨rfl, atLimit, way⟩
    · rintro ⟨rfl, atLimit, way⟩
      exact ⟨rfl, atLimit, way⟩
  completes _ _ _ _ _ opens passes ended := ⟨_, call_completes opens passes ended⟩
  continues _ _ _ _ calls _ higher _ _ := calls.continues bound higher

end Engine

namespace Stage

variable {stage : Stage} {manifest : Manifest} {group : String}

/-- A turn under a limit makes no iteration beyond it. -/
theorem iterations_turned_le (bound : stage.engine.maxSteps = some limit)
    (within : stage.run.iterations ≤ limit) : stage.turned.run.iterations ≤ limit := by
  by_cases goes : stage.Goes
  · obtain ⟨counts, below⟩ := goes.counts
    have room := Engine.limitReached?_eq_none.mp below limit bound
    rw [counts]
    exact room
  · rw [iterations_of_not_goes goes]
    exact within

private theorem Reached.iterations_le
    (reached : stage.Reached manifest group fun stage => stage.engine.maxSteps = some limit) :
    stage.run.iterations ≤ limit := by
  refine reached.keeps (P := fun state => state.iterations ≤ limit) ?_ ?_
  · exact fun _ _ _ => Nat.zero_le limit
  · exact fun _ => iterations_turned_le

end Stage

/-- The limit is exact and leaves no trace. In a run under a limit, with all calls of `resume`
on it, no more iterations are made than it allows; and every engine with the limit keeps it. -/
theorem step_limit_is_exact (limit : Nat) :
    (∀ manifest group stage,
      Stage.Reached manifest group (fun stage => stage.engine.maxSteps = some limit) stage →
      stage.engine.maxSteps = some limit →
        stage.run.iterations ≤ limit ∧ stage.turned.run.iterations ≤ limit) ∧
      ∀ (σ : Type) (engine : Engine σ), engine.maxSteps = some limit →
        engine.KeepsLimit limit := by
  refine ⟨?_, fun _ _ bound => Engine.keepsLimit bound⟩
  intro manifest group stage reached bound
  have within := reached.iterations_le
  exact ⟨within, Stage.iterations_turned_le bound within⟩

/-- An engine that runs `relay`, and stops it behind the first step. -/
def shortEngine : Engine Replies := ⟨relay, Replies.service, "/work", some 1, []⟩

/-- A session with replies for both steps. -/
def shortSession : Session Replies :=
  Engine.newSession ⟨List.replicate 2 ⟨false, none, .append [], "SUCCESS"⟩, []⟩
    ⟨.fresh ["work"], false⟩

/-- The session in which the limit is reached. -/
def shortEnd : Session Replies :=
  shortSession.after (shortEngine.call 2 shortSession (.run "run-1" "Main"))

/-- The session when both steps have been run without a limit. -/
def shortWhole : Session Replies :=
  shortSession.after ((shortEngine.withLimit none).call 3 shortSession (.run "run-1" "Main"))

/-- The limit stops the run behind its first step, and without it the run is resumed to the
same end that it has without a limit from the start. A limit of two iterations lets it
complete. -/
theorem short_run_goes_on :
    shortEngine.KeepsLimit 1 ∧
      shortEngine.Calls shortSession (.run "run-1" "Main") [.error (.stepLimitExceeded 1)]
        shortEnd ∧
      (shortEngine.withLimit none).Calls shortSession (.run "run-1" "Main")
        [.ok (.completed 2)] shortWhole ∧
      (∃ fuel, (shortEngine.withLimit none).call fuel shortEnd .resume =
        some (.ok (.completed 2), shortWhole)) ∧
      ((shortEngine.withLimit (some 2)).call 3 shortSession (.run "run-1" "Main")).map Prod.fst =
        some (.ok (.completed 2)) ∧
      (⟨shortEngine, shortSession.restarted (.startingAt "run-1" ⟨"Main", "A"⟩)⟩ :
        Stage).turned.run.iterations ≤ 1 := by
  obtain ⟨within, keeps⟩ := step_limit_is_exact 1
  have stopped : shortEngine.call 2 shortSession (.run "run-1" "Main") =
      some (.error (.stepLimitExceeded 1), shortEnd) :=
    Session.eq_some_after (by decide)
  have whole : (shortEngine.withLimit none).call 3 shortSession (.run "run-1" "Main") =
      some (.ok (.completed 2), shortWhole) :=
    Session.eq_some_after (by decide)
  have resumes := (keeps _ shortEngine rfl).continues _ (.run "run-1" "Main") [] _
    (.first stopped) none nofun (.ok (.completed 2)) shortWhole
  exact ⟨keeps _ _ rfl, .first stopped, .first whole, resumes.mpr (.first whole),
    by decide, (within _ _ _ (.start rfl relay_begins) rfl).2⟩

end StepGraph
