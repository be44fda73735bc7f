import StepGraph.Proofs.Engine.Calls

/-! Calls and sequences of calls. A call of `run` or of `resume` is refused, or opens a session
in which the loop is driven; so what holds of the loop holds of both. A run that stops before
its end is gone on with by further calls of `resume`, each in the session that the call before
has left: `Engine.Calls` tells what such a sequence has given back. -/
namespace StepGraph

/-- A call on an engine. -/
inductive Call
  | run (runId group : String)
  | resume

namespace Engine

variable {σ : Type} {engine : Engine σ} {session begun middle final : Session σ} {fuel : Nat}
  {asked first : Call} {result : Except RunError Completion}
  {results : List (Except RunError Completion)}

/-- Makes a call. -/
def call (engine : Engine σ) (fuel : Nat) (session : Session σ) :
    Call → Option (Except RunError Completion × Session σ)
  | .run runId group => engine.run fuel runId group session
  | .resume => engine.resume fuel session

/-- The session in which the loop begins on a call, unless the call is refused. -/
def opening (engine : Engine σ) (session : Session σ) : Call → Except RunError (Session σ)
  | .run runId group => do
    let entry ← engine.manifest.entrance group
    return session.restarted (.startingAt runId entry)
  | .resume => do
    if session.run.isFinished then .error .nothingToResume
    else
      engine.manifest.validateNames
      return session.restarted session.run

/-- A call is refused, or drives the session in which the loop begins. -/
theorem call_eq (asked : Call) :
    engine.call fuel session asked =
      match engine.opening session asked with
      | .error error => some (.error error, session)
      | .ok begun => engine.drive fuel begun := by
  cases asked with
  | run runId group =>
    simp only [Engine.call, opening]
    cases enters : engine.manifest.entrance group with
    | error error => exact Manifest.refuses_of_entrance enters engine rfl fuel runId session
    | ok entry => exact Engine.run_of_begins (Manifest.begins_of_entrance enters)
  | resume =>
    simp only [Engine.call, Engine.resume, opening, bind, Except.bind]
    split
    · rfl
    · cases engine.manifest.validateNames <;> rfl

theorem call_of_opening (opens : engine.opening session asked = .ok begun) :
    engine.call fuel session asked = engine.drive fuel begun := by
  rw [call_eq, opens]

theorem call_of_refused {error : RunError}
    (refused : engine.opening session asked = .error error) :
    engine.call fuel session asked = some (.error error, session) := by
  rw [call_eq, refused]

/-- More fuel makes no difference to a call. -/
theorem call_unique {further : Nat} {one other : Except RunError Completion × Session σ}
    (called : engine.call fuel session asked = some one)
    (again : engine.call further session asked = some other) : one = other := by
  cases opens : engine.opening session asked with
  | error error =>
    rw [call_of_refused opens] at called again
    exact Option.some.inj (called.symm.trans again)
  | ok begun =>
    rw [call_of_opening opens] at called again
    exact Engine.drive_unique called again

/-- How a call that is not refused begins: `run` at the entry step of its group, `resume` where
the run stands, and both without the requests to pause that have been made before. -/
inductive Opens (engine : Engine σ) (session : Session σ) : Call → Session σ → Prop
  | run {runId group : String} {entry : StepId} (begins : engine.manifest.Begins group entry) :
      Opens engine session (.run runId group) (session.restarted (.startingAt runId entry))
  | resume (waiting : session.run.isFinished = false)
      (names : engine.manifest.validateNames = .ok ()) :
      Opens engine session .resume (session.restarted session.run)

/-- Why a call is refused. -/
inductive Refuses (engine : Engine σ) (session : Session σ) : Call → RunError → Prop
  | finished (ended : session.run.isFinished = true) :
      Refuses engine session .resume .nothingToResume
  | names {asked : Call} {error : RunError}
      (invalid : engine.manifest.validateNames = .error error) : Refuses engine session asked error
  | group {runId group : String} {error : RunError}
      (names : engine.manifest.validateNames = .ok ())
      (unentered : engine.manifest.entryOf group = .error error) :
      Refuses engine session (.run runId group) error

theorem opens_of_opening (opened : engine.opening session asked = .ok begun) :
    engine.Opens session asked begun := by
  cases asked with
  | run runId group =>
    obtain ⟨entry, enters, same⟩ := bind_eq_ok.mp opened
    cases same
    exact .run (Manifest.begins_of_entrance enters)
  | resume =>
    simp only [opening] at opened
    split at opened
    · cases opened
    · rename_i waiting
      obtain ⟨_, names, same⟩ := bind_eq_ok.mp opened
      cases same
      exact .resume (by simpa using waiting) names

theorem refuses_of_opening {error : RunError}
    (refused : engine.opening session asked = .error error) :
    engine.Refuses session asked error := by
  cases asked with
  | run runId group =>
    rcases bind_eq_error.mp refused with unentered | ⟨_, _, impossible⟩
    · rcases bind_eq_error.mp unentered with invalid | ⟨_, names, unentered⟩
      · exact .names invalid
      · exact .group names unentered
    · cases impossible
  | resume =>
    simp only [opening] at refused
    split at refused
    · rename_i ended
      cases refused
      exact .finished ended
    · rcases bind_eq_error.mp refused with invalid | ⟨_, _, impossible⟩
      · exact .names invalid
      · cases impossible

theorem names_of_opening (opens : engine.opening session asked = .ok begun) :
    engine.manifest.validateNames = .ok () := by
  cases opens_of_opening opens with
  | run begins => exact begins.names
  | resume _ names => exact names

/-- A call that is not refused changes no more of the session than where the run stands, and
forgets a request to pause. -/
theorem restarted_of_opening (opens : engine.opening session asked = .ok begun) :
    begun = session.restarted begun.run := by
  cases opens_of_opening opens <;> rfl

/-- A call is refused when there is nothing to resume, or the manifest is to blame. -/
theorem opening_eq_error {error : RunError}
    (refused : engine.opening session asked = .error error) :
    error = .nothingToResume ∨ error.isStructural = true := by
  cases refuses_of_opening refused with
  | finished => exact Or.inl rfl
  | names invalid => exact Or.inr (Manifest.isStructural_of_validateNames invalid)
  | group _ unentered => exact Or.inr (Manifest.isStructural_of_entryOf unentered)

/-- A call, and calls of `resume` after it: what they have given back, the latest first, and
the session that they have left. -/
inductive Calls (engine : Engine σ) (session : Session σ) (first : Call) :
    List (Except RunError Completion) → Session σ → Prop
  | first {fuel : Nat} {result : Except RunError Completion} {final : Session σ}
      (called : engine.call fuel session first = some (result, final)) :
      Calls engine session first [result] final
  | resume {fuel : Nat} {results : List (Except RunError Completion)}
      {result : Except RunError Completion} {middle final : Session σ}
      (before : Calls engine session first results middle)
      (called : engine.call fuel middle .resume = some (result, final)) :
      Calls engine session first (result :: results) final

private theorem Calls.unique (calls : engine.Calls session first results middle)
    (again : engine.Calls session first results final) : middle = final := by
  induction calls generalizing final with
  | first called =>
    cases again with
    | first other => exact (Prod.mk.inj (call_unique called other)).2
    | resume before => cases before
  | resume before called ih =>
    cases again with
    | first => cases before
    | resume earlier other =>
      cases ih earlier
      exact (Prod.mk.inj (call_unique called other)).2

theorem calls_singleton_iff :
    engine.Calls session first [result] final ↔
      ∃ fuel, engine.call fuel session first = some (result, final) := by
  constructor
  · intro calls
    cases calls with
    | first called => exact ⟨_, called⟩
    | resume before => cases before
  · rintro ⟨fuel, called⟩
    exact .first called

/-- Behind calls there is one more call exactly if `resume` ends in the session they have left. -/
theorem Calls.cons_iff (calls : engine.Calls session first results middle) :
    engine.Calls session first (result :: results) final ↔
      ∃ fuel, engine.call fuel middle .resume = some (result, final) := by
  constructor
  · intro more
    cases more with
    | first => cases calls
    | resume before called => exact ⟨_, calls.unique before ▸ called⟩
  · rintro ⟨fuel, called⟩
    exact .resume calls called

end Engine
end StepGraph
