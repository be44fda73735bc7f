import StepGraph.Proofs.Engine.Stages

/-! Calls and returns nest. A call opens a frame on top of the calls that are open, and
until the stack is no longer than it was before, that frame and all below it stay as they
are, whatever is jumped to, called and returned from above them. Only going back can close
the frame. It leads to where the frame resumes; if the call came from the last step of its
group, it leads where going back would have led without that call. -/
namespace StepGraph

/-- Going back ends the run only when no call is left open. -/
theorem unwind_eq_nil_of_ended {frames : List Frame} (ended : (unwind frames).next = none) :
    (unwind frames).stack = [] := by
  induction frames with
  | nil => rfl
  | cons frame outer ih =>
    obtain ⟨caller, resume⟩ := frame
    cases resume with
    | some id => cases ended
    | none => exact ih ended

/-- An action ends the run only when no call is left open. -/
theorem Action.stack_eq_nil_of_ended {manifest : Manifest} {current : StepId} {stack : CallStack}
    {action : Action} {place : Continuation}
    (reduced : action.reduce manifest current stack = .ok place) (ended : place.next = none) :
    place.stack = [] := by
  cases action with
  | jump target =>
    cases reduced
    cases ended
  | call group =>
    obtain ⟨_, _, _, _, rfl⟩ := Action.reduce_call_eq_ok.mp reduced
    cases ended
  | goBack =>
    cases reduced
    exact unwind_eq_nil_of_ended ended

/-- A run that has ended has no open calls. -/
def RunState.EndsOutside (state : RunState) : Prop := state.current = none → state.stack = []

private theorem maintains_endsOutside (manifest : Manifest) :
    manifest.Maintains RunState.EndsOutside := by
  intro σ engine session later result same outside ran
  cases Engine.iterates ran with
  | undispatched => exact outside
  | unanswered => exact outside
  | unrouted => exact outside
  | advanced _ _ followed =>
    obtain ⟨_, _, _, _, _, reduced, rfl⟩ := RunState.advance_eq_ok.mp followed
    exact fun ended => Action.stack_eq_nil_of_ended reduced ended

/-- A call that does not fail has driven the run from a step. -/
theorem Called.driven {manifest : Manifest} {group : String} {completion : Completion}
    {state : RunState} (called : Called manifest group (.ok completion) state) :
    ∃ (σ : Type) (engine : Engine σ) (fuel : Nat) (begun final : Session σ),
      begun.run.current ≠ none ∧ engine.drive fuel begun = some (.ok completion, final) ∧
        final.run = state := by
  cases called with
  | run same called =>
    rcases manifest.begins_or_refuses group with ⟨entry, begins⟩ | ⟨error, refuses⟩
    · rw [← same] at begins
      rw [Engine.run_of_begins begins] at called
      exact ⟨_, _, _, _, _, Option.some_ne_none entry, called, rfl⟩
    · rw [refuses _ same] at called
      cases called
  | @resume _ _ session _ _ _ _ _ _ called =>
    rcases Engine.resume_eq_some called with ⟨_, impossible, _⟩ | ⟨_, _, impossible, _⟩ |
      ⟨⟨current, waiting⟩, _, driven⟩
    · cases impossible
    · cases impossible
    · have begun : (session.restarted session.run).run.current ≠ none := by
        simp [Session.restarted, waiting]
      exact ⟨_, _, _, _, _, begun, driven, rfl⟩

/-- A run that completes has come back from all its calls. -/
theorem Called.stack_eq_nil_of_completed {manifest : Manifest} {group : String} {iterations : Nat}
    {state : RunState} (called : Called manifest group (.ok (.completed iterations)) state) :
    state.stack = [] := by
  obtain ⟨_, engine, _, begun, final, waiting, driven, rfl⟩ := called.driven
  have maintains : engine.manifest.Maintains RunState.EndsOutside :=
    maintains_endsOutside engine.manifest
  have outside := maintains.drive (fun ended => absurd ended waiting) driven
  obtain ⟨_, last, _, _, stopped⟩ := Engine.drive_eq_some_iff.mp driven
  cases Engine.turn_eq_stop_iff.mp stopped with
  | completed ended => exact outside.1 ended

namespace Stage

variable {stage later entered : Stage} {group : String} {outer : CallStack} {frame : Frame}

/-- The later stage is reached from the first one, and in both of them and at every stage on
the way more calls are open than so many. -/
inductive Within (depth : Nat) (first : Stage) : Stage → Prop
  | here (deeper : depth < first.run.stack.length) : Within depth first first
  | on {stage later : Stage} (before : Within depth first stage) (follows : stage.Follows later)
      (deeper : depth < later.run.stack.length) : Within depth first later

/-- The frame that is open on top of others when a call has entered its group stays open as
long as the stack is longer than those others, and only going back closes it. -/
structure Nests (entered : Stage) (outer : CallStack) (frame : Frame) : Prop where
  stays : ∀ later, Within outer.length entered later → outer ++ [frame] <+: later.run.stack
  closes : ∀ last after, Within outer.length entered last → last.Follows after →
    after.run.stack.length ≤ outer.length →
      last.Executes .goBack after ∧
        (∀ id, frame.resume = some id → after.run.place = ⟨some id, outer⟩) ∧
        (frame.resume = none →
          Action.goBack.reduce last.manifest frame.caller outer = .ok after.run.place)

/-- From one stage to the next an open frame stays open, or going back closes it. -/
theorem Follows.keeps_or_closes (follows : stage.Follows later)
    (opened : outer ++ [frame] <+: stage.run.stack) :
    outer ++ [frame] <+: later.run.stack ∨
      stage.Executes .goBack later ∧ later.run.place = unwind (frame :: outer.reverse) := by
  rcases follows.place with stays | ⟨action, executes⟩
  · have same : later.run.stack = stage.run.stack := congrArg Continuation.stack stays
    exact Or.inl (same ▸ opened)
  · obtain ⟨_, _, reduced⟩ := executes.reduces
    rcases Action.reduce_keeps_or_closes opened reduced with kept | ⟨rfl, closed⟩
    · exact Or.inl kept
    · exact Or.inr ⟨executes, closed⟩

/-- Closing a frame takes the stack below it. -/
theorem not_deeper_of_closed (closed : later.run.place = unwind (frame :: outer.reverse)) :
    later.run.stack.length ≤ outer.length := by
  have shorter := length_unwind_cons_le frame outer.reverse
  rwa [← closed, List.length_reverse] at shorter

private theorem Within.opened (within : Within outer.length entered later)
    (opened : outer ++ [frame] <+: entered.run.stack) :
    outer ++ [frame] <+: later.run.stack := by
  induction within with
  | here => exact opened
  | on _ follows deeper ih =>
    rcases follows.keeps_or_closes ih with kept | ⟨_, closed⟩
    · exact kept
    · exact absurd (not_deeper_of_closed closed) (Nat.not_le.mpr deeper)

/-- A frame that is open on top of others nests. -/
theorem nests_of_open (opened : outer ++ [frame] <+: entered.run.stack) :
    entered.Nests outer frame := by
  refine ⟨fun later within => within.opened opened, ?_⟩
  intro last after within follows shorter
  rcases follows.keeps_or_closes (within.opened opened) with kept | ⟨executes, closed⟩
  · have longer := kept.length_le
    rw [List.length_append, List.length_singleton] at longer
    exact absurd (Nat.lt_of_succ_le longer) (Nat.not_lt.mpr shorter)
  · obtain ⟨caller, resume⟩ := frame
    refine ⟨executes, ?_, ?_⟩
    · rintro id rfl
      rw [closed, unwind, List.reverse_reverse]
    · rintro rfl
      rw [closed]
      rfl

end Stage

/-- In every run calls and returns nest: a call opens the frame that comes back behind the
calling step; that frame lies above the calls that were open until going back closes it, and
leads to where it resumes, or where going back would have led without the call. A run that
completes has closed all its calls. -/
theorem calls_and_returns_nest :
    (∀ stage group entered, Stage.Executes stage (.call group) entered →
      ∃ caller resume, stage.run.current = some caller ∧
        stage.manifest.stepAfter caller = .ok resume ∧
        entered.run.stack = stage.run.stack ++ [⟨caller, resume⟩] ∧
        entered.Nests stage.run.stack ⟨caller, resume⟩) ∧
      ∀ manifest group iterations state,
        Called manifest group (.ok (.completed iterations)) state → state.stack = [] := by
  refine ⟨?_, fun _ _ _ _ called => called.stack_eq_nil_of_completed⟩
  intro stage group entered executes
  obtain ⟨caller, waiting, reduced⟩ := executes.reduces
  obtain ⟨entry, resume, _, following, place⟩ := Action.reduce_call_eq_ok.mp reduced
  have pushed : entered.run.stack = stage.run.stack ++ [⟨caller, resume⟩] :=
    congrArg Continuation.stack place
  refine ⟨caller, resume, waiting, following, pushed, Stage.nests_of_open ?_⟩
  exact ⟨[], by rw [List.append_nil, pushed]⟩

/-- An engine that calls a group whose last step calls another, and comes back from both at
once. -/
def errandEngine : Engine Replies where
  manifest := .small [
    ("Main", [
      ("A", .routing [⟨fallbackOutcome, "CALL:Shop"⟩]),
      ("B", .routing [⟨fallbackOutcome, "RETURN"⟩])]),
    ("Shop", [("A", .routing [⟨fallbackOutcome, "CALL:Till"⟩])]),
    ("Till", [("A", .routing [⟨fallbackOutcome, "RETURN"⟩])])]
  service := Replies.service
  sandbox := "/work"
  maxSteps := none
  snapshotFiles := []

/-- A session with a reply for each of its steps. -/
def errandSession : Session Replies :=
  Engine.newSession ⟨List.replicate 4 ⟨false, none, .append [], "DONE"⟩, []⟩
    ⟨.fresh ["work"], false⟩

/-- The stages of the run. -/
def errandStage : Nat → Stage
  | 0 => ⟨errandEngine, errandSession.restarted (.startingAt "run-1" ⟨"Main", "A"⟩)⟩
  | count + 1 => (errandStage count).turned

/-- The state when the run has completed. -/
def errandEnd : Session Replies :=
  errandSession.after (errandEngine.run 5 "run-1" "Main" errandSession)

/-- The frame of the outer call. -/
def errandFrame : Frame := ⟨⟨"Main", "A"⟩, some ⟨"Main", "B"⟩⟩

/-- The inner call comes from the last step of its group, so the return behind it closes both
calls and leads to where the outer one resumes. -/
theorem errand_nests :
    (errandStage 0).Executes (.call "Shop") (errandStage 1) ∧
      (errandStage 1).Nests [] errandFrame ∧
      (errandStage 1).Executes (.call "Till") (errandStage 2) ∧
      (errandStage 2).Nests [errandFrame] ⟨⟨"Shop", "A"⟩, none⟩ ∧
      (errandStage 2).Executes .goBack (errandStage 3) ∧
      (errandStage 3).run.place = ⟨some ⟨"Main", "B"⟩, []⟩ ∧
      errandEnd.run.stack = [] := by
  obtain ⟨nests, closed⟩ := calls_and_returns_nest
  have goes : ∀ count < 3, (errandStage count).Goes := by decide
  have shops : (errandStage 0).Executes (.call "Shop") (errandStage 1) :=
    (goes 0 (by decide)).executes (by decide)
  have pays : (errandStage 1).Executes (.call "Till") (errandStage 2) :=
    (goes 1 (by decide)).executes (by decide)
  have outer : (errandStage 1).Nests [] errandFrame := by
    have alone : (errandStage 0).run.stack = [] := by decide
    have pushed : (errandStage 1).run.stack = [errandFrame] := by decide
    obtain ⟨caller, resume, _, _, stack, shop⟩ := nests _ _ _ shops
    rw [pushed, alone] at stack
    cases stack
    rwa [alone] at shop
  have inner : (errandStage 2).Nests [errandFrame] ⟨⟨"Shop", "A"⟩, none⟩ := by
    have one : (errandStage 1).run.stack = [errandFrame] := by decide
    have pushed : (errandStage 2).run.stack = [errandFrame, ⟨⟨"Shop", "A"⟩, none⟩] := by
      decide
    obtain ⟨caller, resume, _, _, stack, till⟩ := nests _ _ _ pays
    rw [pushed, one] at stack
    cases stack
    rwa [one] at till
  have inside : Stage.Within 0 (errandStage 1) (errandStage 2) :=
    .on (.here (by decide)) (goes 1 (by decide)).follows (by decide)
  obtain ⟨back, resumed, _⟩ :=
    outer.closes _ _ inside (goes 2 (by decide)).follows (by decide)
  have completes : errandEngine.run 5 "run-1" "Main" errandSession =
      some (.ok (.completed 4), errandEnd) := Session.eq_some_after (by decide)
  exact ⟨shops, outer, pays, inner, back, resumed _ rfl,
    closed _ _ _ _ (.run rfl completes)⟩

end StepGraph
