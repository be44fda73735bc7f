import StepGraph.Executor.Scripted
import StepGraph.Proofs.Engine.Iteration

/-! The loop and the calls that enter it. `turn` is one pass through the loop; a
call of `run` or `resume` is a chain of turns that go on and one that stops, and
`Called` closes calls under one another. An invariant of states is proved of one
iteration and holds in every state that any calls leave behind. -/
namespace StepGraph

variable {σ : Type} {engine : Engine σ} {session next final : Session σ}
  {result : Except RunError Completion} {fuel : Nat}

/-- What a turn of the loop comes to. -/
inductive Turn (σ : Type)
  /-- The run stops. -/
  | stop (result : Except RunError Completion) (session : Session σ)
  /-- The loop goes on. -/
  | go (session : Session σ)

/-- One turn of the loop. -/
def Engine.turn (engine : Engine σ) (session : Session σ) : Turn σ :=
  match session.run.current with
  | none => .stop (.ok (.completed session.run.iterations)) (engine.publish session .completed)
  | some current =>
    if session.workspace.pauseRequested then
      .stop (.ok (.paused current)) (engine.publish session .paused)
    else
      match engine.limitReached? session.run with
      | some limit => .stop (.error (.stepLimitExceeded limit)) session
      | none =>
        match engine.runStep session with
        | (.error error, later) => .stop (.error error) later
        | (.ok _, later) => .go (engine.publish later .running)

theorem Engine.drive_succ :
    engine.drive (fuel + 1) session =
      match engine.turn session with
      | .stop result final => some (result, final)
      | .go next => engine.drive fuel next := by
  rw [Engine.drive, Engine.turn]
  cases session.run.current with
  | none => rfl
  | some current =>
    by_cases requested : session.workspace.pauseRequested = true
    · simp only [requested, ↓reduceIte]
    · simp only [requested, Bool.false_eq_true, ↓reduceIte]
      cases engine.limitReached? session.run with
      | some limit => rfl
      | none =>
        rcases engine.runStep session with ⟨error | _, later⟩ <;> rfl

/-- Why the loop stops in a session, and what is left then. -/
inductive Engine.Stops (engine : Engine σ) (session : Session σ) :
    Except RunError Completion → Session σ → Prop
  | completed (ended : session.run.current = none) :
      Engine.Stops engine session (.ok (.completed session.run.iterations))
        (engine.publish session .completed)
  | paused {current : StepId} (waiting : session.run.current = some current)
      (requested : session.workspace.pauseRequested = true) :
      Engine.Stops engine session (.ok (.paused current)) (engine.publish session .paused)
  | limited {current : StepId} {limit : Nat} (waiting : session.run.current = some current)
      (unasked : session.workspace.pauseRequested = false)
      (reached : engine.limitReached? session.run = some limit) :
      Engine.Stops engine session (.error (.stepLimitExceeded limit)) session
  | failed {current : StepId} {error : RunError} {later : Session σ}
      (waiting : session.run.current = some current)
      (unasked : session.workspace.pauseRequested = false)
      (below : engine.limitReached? session.run = none)
      (ran : engine.runStep session = (.error error, later)) :
      Engine.Stops engine session (.error error) later

theorem Engine.turn_eq_stop_iff :
    engine.turn session = .stop result final ↔ engine.Stops session result final := by
  constructor
  · intro turned
    unfold Engine.turn at turned
    split at turned
    · rename_i ended
      cases turned
      exact .completed ended
    · rename_i current waiting
      split at turned
      · rename_i requested
        cases turned
        exact .paused waiting requested
      · rename_i unasked
        split at turned
        · rename_i limit reached
          cases turned
          exact .limited waiting (by simpa using unasked) reached
        · rename_i below
          split at turned
          · rename_i error later ran
            cases turned
            exact .failed waiting (by simpa using unasked) below ran
          · cases turned
  · intro stops
    cases stops with
    | completed ended => simp [Engine.turn, ended]
    | paused waiting requested => simp [Engine.turn, waiting, requested]
    | limited waiting unasked reached => simp [Engine.turn, waiting, unasked, reached]
    | failed waiting unasked below ran => simp [Engine.turn, waiting, unasked, below, ran]

/-- The loop goes on after an iteration that succeeds, and shows its state. -/
theorem Engine.turn_eq_go_iff :
    engine.turn session = .go next ↔
      ∃ current later, session.run.current = some current ∧
        session.workspace.pauseRequested = false ∧ engine.limitReached? session.run = none ∧
        engine.runStep session = (.ok (), later) ∧ next = engine.publish later .running := by
  constructor
  · intro turned
    unfold Engine.turn at turned
    split at turned
    · cases turned
    · rename_i current waiting
      split at turned
      · cases turned
      · rename_i unasked
        split at turned
        · cases turned
        · rename_i below
          split at turned
          · cases turned
          · rename_i later ran
            cases turned
            exact ⟨current, later, waiting, by simpa using unasked, below, ran, rfl⟩
  · rintro ⟨current, later, waiting, unasked, below, ran, rfl⟩
    simp [Engine.turn, waiting, unasked, below, ran]

/-! ## Turns in a row -/

/-- So many turns lead from one session to another. -/
inductive Engine.Passes (engine : Engine σ) : Nat → Session σ → Session σ → Prop
  | none (session : Session σ) : Engine.Passes engine 0 session session
  | more {count : Nat} {session next last : Session σ} (turned : engine.turn session = .go next)
      (rest : Engine.Passes engine count next last) :
      Engine.Passes engine (count + 1) session last

theorem Engine.Passes.trans {count further : Nat} {last far : Session σ}
    (passes : engine.Passes count session last) (others : engine.Passes further last far) :
    engine.Passes (count + further) session far := by
  induction passes with
  | none => rwa [Nat.zero_add]
  | more turned _ ih =>
    rw [Nat.succ_add]
    exact .more turned (ih others)

/-- Turns on the way to where the loop stops leave the rest of the way to go. -/
theorem Engine.Passes.remaining {count total : Nat} {middle last : Session σ}
    (near : engine.Passes count session middle) (full : engine.Passes total session last)
    (stopped : engine.turn last = .stop result final) :
    ∃ further, total = count + further ∧ engine.Passes further middle last := by
  induction near generalizing total with
  | none => exact ⟨total, (Nat.zero_add total).symm, full⟩
  | more turned _ ih =>
    cases full with
    | none =>
      rw [turned] at stopped
      cases stopped
    | more again rest =>
      rw [turned] at again
      cases again
      obtain ⟨further, rfl, others⟩ := ih rest
      exact ⟨further, (Nat.succ_add ..).symm, others⟩

/-- Driving a session is passing through turns until one stops; the fuel has to
pay for each of them. -/
theorem Engine.drive_eq_some_iff :
    engine.drive fuel session = some (result, final) ↔
      ∃ count last, count < fuel ∧ engine.Passes count session last ∧
        engine.turn last = .stop result final := by
  constructor
  · intro driven
    induction fuel generalizing session with
    | zero => cases driven
    | succ fuel ih =>
      rw [Engine.drive_succ] at driven
      split at driven
      · rename_i stopped
        cases driven
        exact ⟨0, session, Nat.zero_lt_succ _, .none session, stopped⟩
      · rename_i next turned
        obtain ⟨count, last, paid, passes, stopped⟩ := ih driven
        exact ⟨count + 1, last, Nat.succ_lt_succ paid, .more turned passes, stopped⟩
  · rintro ⟨count, last, paid, passes, stopped⟩
    induction passes generalizing fuel with
    | none session =>
      obtain ⟨fuel, rfl⟩ := Nat.exists_eq_succ_of_ne_zero (Nat.ne_zero_of_lt paid)
      rw [Engine.drive_succ, stopped]
    | more turned rest ih =>
      obtain ⟨fuel, rfl⟩ := Nat.exists_eq_succ_of_ne_zero (Nat.ne_zero_of_lt paid)
      rw [Engine.drive_succ, turned]
      exact ih (Nat.lt_of_succ_lt_succ paid) stopped

/-- More fuel makes no difference to a call that ends. -/
theorem Engine.drive_unique {more : Nat} {first second : Except RunError Completion × Session σ}
    (driven : engine.drive fuel session = some first)
    (again : engine.drive more session = some second) : first = second := by
  obtain ⟨count, last, _, passes, stopped⟩ := Engine.drive_eq_some_iff.mp driven
  obtain ⟨total, far, _, full, ended⟩ := Engine.drive_eq_some_iff.mp again
  obtain ⟨further, _, rest⟩ := passes.remaining full ended
  cases rest with
  | none =>
    rw [stopped] at ended
    injection ended with results sessions
    exact Prod.ext results sessions
  | more turned =>
    rw [stopped] at turned
    cases turned

/-- What every turn keeps holds wherever turns lead. -/
theorem Engine.Passes.keeps {P : Session σ → Prop} {count : Nat} {last : Session σ}
    (passes : engine.Passes count session last)
    (keeps : ∀ session next, P session → engine.turn session = .go next → P next)
    (start : P session) : P last := by
  induction passes with
  | none => exact start
  | more turned _ ih => exact ih (keeps _ _ start turned)

/-! ## Calls -/

/-- A run of the group can begin, at that step. -/
structure Manifest.Begins (manifest : Manifest) (group : String) (entry : StepId) : Prop where
  names : manifest.validateNames = .ok ()
  entry : manifest.entryOf group = .ok entry

/-- Every engine with the manifest refuses a run of the group at once. -/
def Manifest.Refuses (manifest : Manifest) (group : String) (error : RunError) : Prop :=
  ∀ {σ : Type} (engine : Engine σ), engine.manifest = manifest → ∀ fuel runId session,
    engine.run fuel runId group session = some (.error error, session)

/-- The step at which a run of the group begins, or why it is refused. -/
def Manifest.entrance (manifest : Manifest) (group : String) : Except RunError StepId := do
  manifest.validateNames
  manifest.entryOf group

/-- A run that can begin starts afresh at the entry step. -/
theorem Engine.run_of_begins {runId group : String} {entry : StepId}
    (begins : engine.manifest.Begins group entry) :
    engine.run fuel runId group session =
      engine.drive fuel (session.restarted (.startingAt runId entry)) := by
  simp [Engine.run, begins.names, begins.entry]

theorem Manifest.begins_of_entrance {manifest : Manifest} {group : String} {entry : StepId}
    (enters : manifest.entrance group = .ok entry) : manifest.Begins group entry := by
  unfold entrance at enters
  cases names : manifest.validateNames with
  | error error =>
    rw [names] at enters
    cases enters
  | ok _ =>
    rw [names] at enters
    exact ⟨names, enters⟩

theorem Manifest.refuses_of_entrance {manifest : Manifest} {group : String} {error : RunError}
    (failed : manifest.entrance group = .error error) : manifest.Refuses group error := by
  rintro σ engine rfl fuel runId session
  unfold entrance at failed
  cases names : engine.manifest.validateNames with
  | error invalid =>
    rw [names] at failed
    cases failed
    simp [Engine.run, names]
  | ok _ =>
    rw [names] at failed
    have missing : engine.manifest.entryOf group = .error error := failed
    simp [Engine.run, names, missing]

/-- A run of a group can begin, or every engine refuses it at once. -/
theorem Manifest.begins_or_refuses (manifest : Manifest) (group : String) :
    (∃ entry, manifest.Begins group entry) ∨ ∃ error, manifest.Refuses group error := by
  cases enters : manifest.entrance group with
  | ok entry => exact Or.inl ⟨entry, begins_of_entrance enters⟩
  | error error => exact Or.inr ⟨error, refuses_of_entrance enters⟩

/-- More fuel makes no difference to a run. -/
theorem Engine.run_unique {more : Nat} {runId group : String}
    {first second : Except RunError Completion × Session σ}
    (called : engine.run fuel runId group session = some first)
    (again : engine.run more runId group session = some second) : first = second := by
  rcases engine.manifest.begins_or_refuses group with ⟨entry, begins⟩ | ⟨error, refuses⟩
  · rw [Engine.run_of_begins begins] at called again
    exact Engine.drive_unique called again
  · rw [refuses engine rfl] at called again
    exact Option.some.inj (called.symm.trans again)

/-- A run that is not over is resumed where it stands. -/
theorem Engine.resume_of_current {current : StepId} (waiting : session.run.current = some current)
    (names : engine.manifest.validateNames = .ok ()) :
    engine.resume fuel session = engine.drive fuel (session.restarted session.run) := by
  simp [Engine.resume, RunState.isFinished, waiting, names]

/-- Resuming refuses a run that has ended, and names that form no ids; otherwise it
goes on where the run stands. -/
theorem Engine.resume_eq_some (called : engine.resume fuel session = some (result, final)) :
    (session.run.current = none ∧ result = .error .nothingToResume ∧ final = session) ∨
      (∃ error, engine.manifest.validateNames = .error error ∧ result = .error error ∧
        final = session) ∨
      (∃ current, session.run.current = some current) ∧ engine.manifest.validateNames = .ok () ∧
        engine.drive fuel (session.restarted session.run) = some (result, final) := by
  unfold Engine.resume RunState.isFinished at called
  cases waiting : session.run.current with
  | none =>
    rw [waiting] at called
    cases called
    exact Or.inl ⟨rfl, rfl, rfl⟩
  | some current =>
    simp only [waiting, Option.isNone_some, Bool.false_eq_true, ↓reduceIte] at called
    cases names : engine.manifest.validateNames with
    | error error =>
      rw [names] at called
      cases called
      exact Or.inr (Or.inl ⟨error, rfl, rfl, rfl⟩)
    | ok _ =>
      rw [names] at called
      exact Or.inr (Or.inr ⟨⟨current, rfl⟩, rfl, called⟩)

/-- What a call of `run` for a group, or of `resume` on a run of that group, may
give back, and the state in which it leaves the run. From call to call all but the
manifest and the state may be another: the service and its state, the files, the
limit, the requests to pause. -/
inductive Called (manifest : Manifest) (group : String) :
    Except RunError Completion → RunState → Prop
  | run {σ : Type} {engine : Engine σ} {session final : Session σ} {fuel : Nat} {runId : String}
      {result : Except RunError Completion} (same : engine.manifest = manifest)
      (called : engine.run fuel runId group session = some (result, final)) :
      Called manifest group result final.run
  | resume {σ : Type} {engine : Engine σ} {session final : Session σ} {fuel : Nat}
      {earlier result : Except RunError Completion}
      (before : Called manifest group earlier session.run) (same : engine.manifest = manifest)
      (called : engine.resume fuel session = some (result, final)) :
      Called manifest group result final.run

/-- Something that holds of the state of a run before and after each iteration with
a manifest, whether the iteration succeeds or fails. -/
def Manifest.Maintains (manifest : Manifest) (P : RunState → Prop) : Prop :=
  ∀ {σ : Type} {engine : Engine σ} {session later : Session σ} {result : Except RunError Unit},
    engine.manifest = manifest → P session.run → engine.runStep session = (result, later) →
      P later.run

/-- An error with which a call may end when it has come to states with a property:
there is nothing to resume, the limit is reached, or an iteration fails. -/
inductive Manifest.FailsFrom (manifest : Manifest) (P : RunState → Prop) : RunError → Prop
  | nothingToResume : Manifest.FailsFrom manifest P .nothingToResume
  | limited (limit : Nat) : Manifest.FailsFrom manifest P (.stepLimitExceeded limit)
  | iteration {σ : Type} {engine : Engine σ} {session later : Session σ} {error : RunError}
      (same : engine.manifest = manifest) (holds : P session.run)
      (ran : engine.runStep session = (.error error, later)) : Manifest.FailsFrom manifest P error

theorem Manifest.Maintains.drive {P : RunState → Prop}
    (maintains : engine.manifest.Maintains P) (start : P session.run)
    (driven : engine.drive fuel session = some (result, final)) :
    P final.run ∧ ∀ error, result = .error error → engine.manifest.FailsFrom P error := by
  obtain ⟨count, last, _, passes, stopped⟩ := Engine.drive_eq_some_iff.mp driven
  have reached : P last.run := by
    refine passes.keeps (P := fun session => P session.run) ?_ start
    intro session next holds turned
    obtain ⟨_, later, _, _, _, ran, rfl⟩ := Engine.turn_eq_go_iff.mp turned
    have kept : P later.run := maintains rfl holds ran
    exact kept
  cases Engine.turn_eq_stop_iff.mp stopped with
  | completed => exact ⟨reached, nofun⟩
  | paused => exact ⟨reached, nofun⟩
  | limited =>
    refine ⟨reached, ?_⟩
    rintro _ ⟨⟩
    exact .limited _
  | failed _ _ _ ran =>
    refine ⟨maintains rfl reached ran, ?_⟩
    rintro _ ⟨⟩
    exact .iteration rfl reached ran

/-- An invariant of iterations that holds at the start of a run holds in whatever
state calls leave the run, and calls fail only from states in which it holds. -/
theorem Called.invariant {manifest : Manifest} {group : String} {entry : StepId}
    {P : RunState → Prop} {state : RunState} (begins : manifest.Begins group entry)
    (start : ∀ runId, P (.startingAt runId entry)) (maintains : manifest.Maintains P)
    (called : Called manifest group result state) :
    P state ∧ ∀ error, result = .error error → manifest.FailsFrom P error := by
  induction called with
  | run same called =>
    subst same
    rw [Engine.run_of_begins begins] at called
    exact maintains.drive (start _) called
  | @resume _ _ session _ _ _ _ before same called ih =>
    subst same
    rcases Engine.resume_eq_some called with ⟨_, rfl, rfl⟩ | ⟨error, invalid, _⟩ | ⟨_, _, driven⟩
    · refine ⟨ih.1, ?_⟩
      rintro _ ⟨⟩
      exact .nothingToResume
    · rw [begins.names] at invalid
      cases invalid
    · have held : P (session.restarted session.run).run := ih.1
      exact maintains.drive held driven

/-- The session that a call leaves, or the one before it if its fuel runs out. -/
def Session.after (session : Session σ)
    (call : Option (Except RunError Completion × Session σ)) : Session σ :=
  (call.map Prod.snd).getD session

/-- A call is its result and the session that it leaves. -/
theorem Session.eq_some_after {call : Option (Except RunError Completion × Session σ)}
    (given : call.map Prod.fst = some result) : call = some (result, session.after call) := by
  cases call with
  | none => cases given
  | some outcome =>
    cases given
    rfl

/-- Two groups in which one can call and jump around for ever. -/
def roundabout : Manifest :=
  .small [
    ("Main", [
      ("A", .routing [⟨"SUCCESS", "CALL:Sub"⟩, ⟨fallbackOutcome, "RETURN"⟩]),
      ("B", .routing [⟨fallbackOutcome, "JUMP:Main__A"⟩])]),
    ("Sub", [("A", .routing [⟨fallbackOutcome, "RETURN"⟩])])]

/-- An engine that goes round as long as there are replies, but only three steps. -/
def roundaboutEngine : Engine Replies := ⟨roundabout, Replies.service, "/work", some 3, []⟩

/-- A session with enough replies to reach that limit. -/
def roundaboutSession : Session Replies :=
  Engine.newSession ⟨List.replicate 4 ⟨false, none, .append [], "SUCCESS"⟩, []⟩
    ⟨.fresh ["work"], false⟩

/-- The session in which the limit is reached. -/
def roundaboutEnd : Session Replies :=
  roundaboutSession.after (roundaboutEngine.run 5 "run-1" "Main" roundaboutSession)

theorem roundabout_is_limited : roundaboutEngine.run 5 "run-1" "Main" roundaboutSession =
    some (.error (.stepLimitExceeded 3), roundaboutEnd) :=
  Session.eq_some_after (by decide)

end StepGraph
