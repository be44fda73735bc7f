import StepGraph.Proofs.Engine.Calls

/-! The log of a run is an execution of its manifest. `replay` follows actions alone,
from the first step of a group and without an executor; followed along the logged
actions it visits the logged steps and comes to where the run stands. The other
fields of the state are read off the log. Both survive failed iterations and calls
of `resume`, for a failed iteration leaves everything but the payload alone. -/
namespace StepGraph

/-- The first transition of a list that is declared under a name. -/
def FirstUnder (name : String) (transitions : List Transition) (transition : Transition) : Prop :=
  ∃ before after, transitions = before ++ transition :: after ∧ transition.onOutcome = name ∧
    ∀ other ∈ before, other.onOutcome ≠ name

/-- The transition that an outcome of a step takes: the first that is declared for
it, and only where there is none the first fallback. -/
def Step.Routes (step : Step) (outcome : String) (transition : Transition) : Prop :=
  FirstUnder outcome step.transitions transition ∨
    (∀ other ∈ step.transitions, other.onOutcome ≠ outcome) ∧
      FirstUnder fallbackOutcome step.transitions transition

private theorem find?_eq_some_iff_firstUnder {name : String} {transitions : List Transition}
    {transition : Transition} :
    transitions.find? (·.onOutcome = name) = some transition ↔
      FirstUnder name transitions transition := by
  simp only [List.find?_eq_some_iff_append, FirstUnder, decide_eq_true_eq, Bool.not_eq_eq_eq_not,
    Bool.not_true, decide_eq_false_iff_not]
  constructor
  · rintro ⟨under, before, after, split, others⟩
    exact ⟨before, after, split, under, others⟩
  · rintro ⟨before, after, split, under, others⟩
    exact ⟨under, before, after, split, others⟩

private theorem Step.transitionFor_eq_ok {step : Step} {id : StepId} {outcome : String}
    {transition : Transition} :
    step.transitionFor id outcome = .ok transition ↔
      outcome ≠ fallbackOutcome ∧ step.Routes outcome transition := by
  unfold Step.transitionFor Step.Routes
  by_cases reserved : outcome = fallbackOutcome
  · simp [reserved]
  simp only [reserved, ↓reduceIte, ne_eq, not_false_eq_true, true_and,
    ← find?_eq_some_iff_firstUnder]
  cases exactly : step.transitions.find? (·.onOutcome = outcome) with
  | some found =>
    have taken : ¬ ∀ other ∈ step.transitions, other.onOutcome ≠ outcome := fun none =>
      none found (List.mem_of_find?_eq_some exactly) (by simpa using List.find?_some exactly)
    simp only [Except.ok.injEq, Option.some.injEq]
    constructor
    · exact Or.inl
    · rintro (same | ⟨none, _⟩)
      · exact same
      · exact absurd none taken
  | none =>
    have none : ∀ other ∈ step.transitions, other.onOutcome ≠ outcome := by
      simpa using List.find?_eq_none.mp exactly
    cases step.transitions.find? (·.onOutcome = fallbackOutcome) with
    | some fallback => simpa using fun _ => none
    | none => simp

/-- An entry tells of a declared step and its executor, of an outcome that is not the
fallback's own name, and of the action of the transition that this outcome takes. -/
def LogEntry.Takes (manifest : Manifest) (entry : LogEntry) (transition : Transition) : Prop :=
  ∃ step, manifest.step entry.step = .ok step ∧ entry.executor = step.executor ∧
    entry.outcome ≠ fallbackOutcome ∧ step.Routes entry.outcome transition ∧
    entry.action = transition.action

/-- Follows actions from a place, one after the other. Gives the steps at which they
were taken, and the place at the end. -/
def Manifest.replay (manifest : Manifest) :
    Continuation → List String → Except RunError (List StepId × Continuation)
  | place, [] => .ok ([], place)
  | ⟨none, _⟩, _ :: _ => .error .nothingToResume
  | ⟨some id, stack⟩, raw :: rest => do
    let (_, next) ← Action.interpret manifest id stack raw
    let (visited, last) ← manifest.replay next rest
    return (id :: visited, last)

/-- One more action is taken at the place to which the others led. -/
theorem Manifest.replay_append {manifest : Manifest} {start next : Continuation}
    {actions : List String} {visited : List StepId} {id : StepId} {stack : CallStack} {raw : String}
    {action : Action} (replayed : manifest.replay start actions = .ok (visited, ⟨some id, stack⟩))
    (followed : Action.interpret manifest id stack raw = .ok (action, next)) :
    manifest.replay start (actions ++ [raw]) = .ok (visited ++ [id], next) := by
  induction actions generalizing start visited with
  | nil =>
    cases replayed
    simp [Manifest.replay, followed, bind, Except.bind, pure, Except.pure]
  | cons first rest ih =>
    obtain ⟨current, pending⟩ := start
    cases current with
    | none => cases replayed
    | some current =>
      simp only [Manifest.replay, bind_eq_ok] at replayed
      obtain ⟨⟨taken, middle⟩, opened, ⟨later, last⟩, replayed, same⟩ := replayed
      cases same
      simp [Manifest.replay, opened, ih replayed, bind, Except.bind, pure, Except.pure]

/-- The state of a run that began at a step agrees with its log, and the log with the
manifest. -/
structure RunState.Accounted (manifest : Manifest) (first : StepId) (state : RunState) : Prop where
  /-- Iterations are counted by the log. -/
  iterations : state.iterations = state.log.length
  /-- Entries are numbered from one. -/
  numbers : ∀ index entry, state.log[index]? = some entry → entry.iteration = index + 1
  /-- The steps of the log are those that are said to have run, in order. -/
  completed : state.completed = state.log.map (·.step)
  /-- Every entry is what the manifest says of its outcome. -/
  entries : ∀ entry ∈ state.log, ∃ transition, entry.Takes manifest transition
  /-- The logged actions lead from the first step through the logged steps to where the
  run stands. -/
  replays : manifest.replay ⟨some first, []⟩ (state.log.map (·.action)) =
    .ok (state.log.map (·.step), state.place)
  /-- Nothing has been followed before the first entry. -/
  unmoved : state.log = [] → state.lastTransition = none
  /-- The last transition is that of the last entry, and leads to the current step. -/
  moved : ∀ entry, state.log.getLast? = some entry → ∃ transition,
    entry.Takes manifest transition ∧ state.lastTransition =
      some ⟨entry.step, entry.outcome, transition.onOutcome, entry.action, state.current⟩

theorem RunState.accounted_startingAt {manifest : Manifest} {runId : String} {first : StepId} :
    (RunState.startingAt runId first).Accounted manifest first where
  iterations := rfl
  numbers := nofun
  completed := rfl
  entries := nofun
  replays := rfl
  unmoved _ := rfl
  moved := nofun

/-- Only the payload is replaced when an executor answers. -/
theorem RunState.Accounted.answered {manifest : Manifest} {first : StepId} {state : RunState}
    (accounted : state.Accounted manifest first) (payload : Payload) :
    (state.answered payload).Accounted manifest first :=
  ⟨accounted.iterations, accounted.numbers, accounted.completed, accounted.entries,
    accounted.replays, accounted.unmoved, accounted.moved⟩

/-- Following an outcome adds an entry, and moves every other field along with it. -/
theorem RunState.Accounted.advanced {manifest : Manifest} {first : StepId} {state : RunState}
    (accounted : state.Accounted manifest first) {dispatch : Dispatch} {outcome : String}
    {transition : Transition} {action : Action} {place : Continuation}
    (waiting : state.current = some dispatch.id)
    (found : manifest.step dispatch.id = .ok dispatch.step)
    (routed : dispatch.step.transitionFor dispatch.id outcome = .ok transition)
    (followed :
      Action.interpret manifest dispatch.id state.stack transition.action = .ok (action, place)) :
    (state.advanced dispatch outcome transition place).Accounted manifest first := by
  obtain ⟨allowed, routes⟩ := Step.transitionFor_eq_ok.mp routed
  have takes : LogEntry.Takes manifest ⟨state.iterations + 1, dispatch.id, dispatch.step.executor,
      dispatch.order.context, state.payload, outcome, transition.action⟩ transition :=
    ⟨dispatch.step, found, rfl, allowed, routes, rfl⟩
  constructor
  case iterations => simp [RunState.advanced, accounted.iterations]
  case numbers =>
    intro index entry member
    simp only [RunState.advanced, List.getElem?_append] at member
    -- Only the entry that is added stands behind the others.
    split at member
    · exact accounted.numbers index entry member
    · obtain ⟨inside, rfl⟩ := List.getElem?_eq_some_iff.mp member
      have last : index = state.log.length := by simp at inside; omega
      simp [last, accounted.iterations]
  case completed => simp [RunState.advanced, accounted.completed]
  case entries =>
    intro entry member
    rcases List.mem_append.mp member with earlier | added
    · exact accounted.entries entry earlier
    · exact ⟨transition, List.mem_singleton.mp added ▸ takes⟩
  case replays =>
    have replayed := accounted.replays
    simp only [RunState.place, waiting] at replayed
    simpa [RunState.advanced, RunState.place] using Manifest.replay_append replayed followed
  case unmoved => simp [RunState.advanced]
  case moved =>
    intro entry last
    simp only [RunState.advanced, List.getLast?_append, List.getLast?_singleton,
      Option.some_or, Option.some.injEq] at last
    subst last
    exact ⟨transition, takes, rfl⟩

/-- Agreement with the log survives every iteration. -/
theorem maintains_accounted (manifest : Manifest) (first : StepId) :
    manifest.Maintains fun state => state.Accounted manifest first := by
  intro σ engine session later result same accounted ran
  subst same
  cases Engine.iterates ran with
  | undispatched => exact accounted
  | unanswered => exact accounted
  | unrouted => exact accounted.answered _
  | advanced dispatched replied followed =>
    obtain ⟨id, step, _, _, waiting, found, _, _, rfl⟩ := Engine.dispatch_eq_ok.mp dispatched
    obtain ⟨transition, action, place, routed, read, reduced, rfl⟩ :=
      RunState.advance_eq_ok.mp followed
    exact (accounted.answered _).advanced waiting found routed
      (Action.interpret_eq_ok.mpr ⟨read, reduced⟩)

/-- Whatever calls of `run` and `resume` lead to, with any executors, pauses and
errors on the way, the log is an execution of the manifest and leads to the state. -/
theorem log_replays_to_state {manifest : Manifest} {group : String} {first : StepId}
    (begins : manifest.Begins group first) {result : Except RunError Completion} {state : RunState}
    (called : Called manifest group result state) : state.Accounted manifest first :=
  (called.invariant (P := fun state => state.Accounted manifest first) begins
    (fun _ => RunState.accounted_startingAt) (maintains_accounted manifest first)).1

/-- Three steps of the roundabout, and what they leave. -/
theorem roundabout_is_accounted : roundabout.Begins "Main" ⟨"Main", "A"⟩ ∧
    roundaboutEnd.run.log.map (·.step) = [⟨"Main", "A"⟩, ⟨"Sub", "A"⟩, ⟨"Main", "B"⟩] ∧
      roundaboutEnd.run.Accounted roundabout ⟨"Main", "A"⟩ := by
  have begins : roundabout.Begins "Main" ⟨"Main", "A"⟩ := ⟨by decide, by decide⟩
  exact ⟨begins, by decide, log_replays_to_state begins (.run rfl roundabout_is_limited)⟩

end StepGraph
