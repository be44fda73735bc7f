import StepGraph.Proofs.Engine.Calls
import StepGraph.Proofs.FileSystem.Replace
import StepGraph.Proofs.RunState.Codec

/-! Storing a run and loading it again. A state that can be held comes back from its
file unchanged, and the states that calls lead to can be held until their counter
outgrows a word: the ids of a run come from the names of the manifest and from the
texts of its actions, so that all of them read back. -/
namespace StepGraph

/-- A state is loaded from its text. -/
theorem RunState.load_of_read {state : RunState} {files : FileSystem} {path : String}
    (held : state.Held) (read : files.read path = .ok state.fileText.toUTF8) :
    RunState.load files path = .ok state := by
  have text := FileSystem.readText_of_read read
  simp only [RunState.load, attemptingIo, text, Except.mapError, bind, Except.bind,
    RunState.ofFileText?_fileText held]

/-- A state that has been stored is loaded as it was. -/
theorem RunState.load_of_store {state : RunState} {path : String} {workspace stored : Workspace}
    (held : state.Held) (wrote : (state.store path).run workspace = (.ok (), stored)) :
    RunState.load stored.files path = .ok state :=
  RunState.load_of_read held (FileSystem.read_of_replace (FileSystem.replace_of_run wrote))

/-- All ids in the state read back, and its log is numbered up to its counter. -/
structure RunState.Legible (state : RunState) : Prop where
  place : state.place.Everywhere (·.readsBack = true)
  completed : ∀ id ∈ state.completed, id.readsBack = true
  lastTransition : ∀ record, state.lastTransition = some record → record.ReadsBack
  steps : ∀ entry ∈ state.log, entry.step.readsBack = true
  numbers : ∀ entry ∈ state.log, entry.iteration ≤ state.iterations

/-- What keeps a legible state out of its file is only a counter beyond a word. -/
theorem RunState.Legible.held {state : RunState} (legible : state.Legible)
    (word : state.iterations < Data.wordBound) : state.Held where
  place := legible.place
  completed := legible.completed
  lastTransition := legible.lastTransition
  iterations := word
  log entry member :=
    ⟨legible.steps entry member, Nat.lt_of_le_of_lt (legible.numbers entry member) word⟩

theorem Manifest.readsBack_of_entryOf {manifest : Manifest} {group : String} {id : StepId}
    (entered : manifest.entryOf group = .ok id) : id.readsBack = true := by
  obtain ⟨_, _, made, _⟩ := Manifest.entryOf_eq_ok.mp entered
  exact (StepId.ofParts_eq_ok made).2

private theorem Manifest.readsBack_of_stepAfter {manifest : Manifest} {id behind : StepId}
    (following : manifest.stepAfter id = .ok (some behind)) : behind.readsBack = true := by
  obtain ⟨_, _, ⟨_, impossible⟩ | ⟨_, made, _, formed, same⟩⟩ :=
    Manifest.stepAfter_eq_ok.mp following
  · cases impossible
  · cases same
    exact (StepId.ofParts_eq_ok formed).2

/-- The target of an action that was read is an id that was read. -/
theorem Action.readsBack_of_parse {raw : String} {id : StepId}
    (read : Action.parse raw = .ok (.jump id)) : id.readsBack = true := by
  unfold Action.parse at read
  split at read
  · cases read
  split at read
  · cases read
  simp only at read
  split at read
  · cases read
  split at read
  · split at read
    · rename_i target
      cases read
      exact StepId.readsBack_of_parse target
    · cases read
  split at read
  · split at read <;> cases read
  split at read <;> cases read

theorem RunState.legible_startingAt {runId : String} {entry : StepId}
    (back : entry.readsBack = true) : (RunState.startingAt runId entry).Legible where
  place := ⟨fun _ next => Option.some.inj next ▸ back, nofun, nofun⟩
  completed := nofun
  lastTransition := nofun
  steps := nofun
  numbers := nofun

private theorem RunState.Legible.answered {state : RunState} (legible : state.Legible)
    (payload : Payload) : (state.answered payload).Legible :=
  ⟨legible.place, legible.completed, legible.lastTransition, legible.steps, legible.numbers⟩

/-- Following an outcome from one legible place to another keeps the state legible. -/
theorem RunState.Legible.advanced {state : RunState} (legible : state.Legible)
    {dispatch : Dispatch} {outcome : String} {transition : Transition} {place : Continuation}
    (here : dispatch.id.readsBack = true)
    (everywhere : place.Everywhere (·.readsBack = true)) :
    (state.advanced dispatch outcome transition place).Legible where
  place := everywhere
  completed id member := by
    rcases List.mem_append.mp member with earlier | added
    · exact legible.completed id earlier
    · exact List.mem_singleton.mp added ▸ here
  lastTransition := by
    rintro _ ⟨⟩
    exact ⟨here, everywhere.next⟩
  steps entry member := by
    rcases List.mem_append.mp member with earlier | added
    · exact legible.steps entry earlier
    · exact List.mem_singleton.mp added ▸ here
  numbers entry member := by
    rcases List.mem_append.mp member with earlier | added
    · exact Nat.le_succ_of_le (legible.numbers entry earlier)
    · exact List.mem_singleton.mp added ▸ Nat.le_refl _

/-- Following an outcome from a place whose ids read back leads to another such place. -/
theorem Engine.readsBack_of_advance {σ : Type} {engine : Engine σ} {session : Session σ}
    {dispatch : Dispatch} {payload : Payload} {outcome : String} {after : RunState}
    (everywhere : session.run.place.Everywhere (·.readsBack = true))
    (dispatched : engine.dispatch session.run session.service session.workspace.files =
      .ok dispatch)
    (followed : (session.run.answered payload).advance engine.manifest dispatch outcome =
      .ok after) :
    dispatch.id.readsBack = true ∧ ∃ transition place,
      place.Everywhere (·.readsBack = true) ∧
        after = (session.run.answered payload).advanced dispatch outcome transition place := by
  obtain ⟨id, step, _, _, waiting, _, _, _, rfl⟩ := Engine.dispatch_eq_ok.mp dispatched
  obtain ⟨transition, action, place, _, read, reduced, rfl⟩ := RunState.advance_eq_ok.mp followed
  simp only [RunState.place, waiting] at everywhere
  refine ⟨everywhere.next id rfl, transition, place, ?_, rfl⟩
  refine Action.reduce_everywhere everywhere ?_ ?_ ?_ reduced
  · rintro target rfl
    exact Action.readsBack_of_parse read
  · intro group entry _ entered
    exact Manifest.readsBack_of_entryOf entered
  · exact fun _ => Manifest.readsBack_of_stepAfter

/-- Every iteration keeps a state legible, with any manifest. -/
theorem maintains_legible (manifest : Manifest) : manifest.Maintains RunState.Legible := by
  intro σ engine session later result same legible ran
  subst same
  cases Engine.iterates ran with
  | undispatched => exact legible
  | unanswered => exact legible
  | unrouted => exact legible.answered _
  | advanced dispatched _ followed =>
    obtain ⟨here, _, _, everywhere, rfl⟩ :=
      Engine.readsBack_of_advance legible.place dispatched followed
    exact (legible.answered _).advanced here everywhere

/-- The state can be held unless it counts beyond a word. Unlike a state that a run has come to
from its beginning, one that was loaded may have any numbers in its log. -/
def RunState.HeldWithin (state : RunState) : Prop := state.iterations < Data.wordBound → state.Held

theorem RunState.Held.answered {state : RunState} (held : state.Held) (payload : Payload) :
    (state.answered payload).Held :=
  ⟨held.place, held.completed, held.lastTransition, held.iterations, held.log⟩

private theorem RunState.Held.advanced {state : RunState} (held : state.Held) {dispatch : Dispatch}
    {outcome : String} {transition : Transition} {place : Continuation}
    (here : dispatch.id.readsBack = true)
    (everywhere : place.Everywhere (·.readsBack = true))
    (word : state.iterations + 1 < Data.wordBound) :
    (state.advanced dispatch outcome transition place).Held where
  place := everywhere
  completed id member := by
    rcases List.mem_append.mp member with earlier | added
    · exact held.completed id earlier
    · exact List.mem_singleton.mp added ▸ here
  lastTransition := by
    rintro _ ⟨⟩
    exact ⟨here, everywhere.next⟩
  iterations := word
  log entry member := by
    rcases List.mem_append.mp member with earlier | added
    · exact held.log entry earlier
    · exact List.mem_singleton.mp added ▸ ⟨here, word⟩

/-- Every iteration leads from states that can be held to such states. -/
theorem maintains_heldWithin (manifest : Manifest) : manifest.Maintains RunState.HeldWithin := by
  intro σ engine session later result same within ran
  subst same
  cases Engine.iterates ran with
  | undispatched => exact within
  | unanswered => exact within
  | unrouted => exact fun word => (within word).answered _
  | advanced dispatched _ followed =>
    intro word
    have before : session.run.iterations + 1 < Data.wordBound := by
      obtain ⟨_, _, _, _, _, _, rfl⟩ := RunState.advance_eq_ok.mp followed
      exact word
    have held := within (Nat.lt_of_succ_lt before)
    obtain ⟨here, _, _, everywhere, rfl⟩ :=
      Engine.readsBack_of_advance held.place dispatched followed
    exact (held.answered _).advanced here everywhere before

end StepGraph
