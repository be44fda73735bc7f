import StepGraph.Proofs.Engine.Calls

/-! The orders that a call hands out. Orders are only ever added, one in each
iteration that gets so far, and the first of a call is the one that the state at its
beginning asks for: a call that goes on with a run goes on with its current step. -/
namespace StepGraph

variable {σ : Type} {engine : Engine σ} {session next final : Session σ}
  {result : Except RunError Completion} {fuel : Nat}

/-- An iteration that succeeds has handed out the order its state asked for. -/
theorem Engine.dispatched_of_go (turned : engine.turn session = .go next) :
    ∃ dispatch, engine.dispatch session.run session.service session.workspace.files = .ok dispatch ∧
      next.dispatched = session.dispatched ++ [dispatch.order] := by
  obtain ⟨_, later, _, _, _, ran, rfl⟩ := Engine.turn_eq_go_iff.mp turned
  cases Engine.iterates ran with
  | advanced dispatched replied _ =>
    have added := Engine.dispatched_of_execute replied
    exact ⟨_, dispatched, added⟩

/-- When the loop stops without an order, it was asked to pause, the limit was reached,
or there was none to hand out. Otherwise the iteration has failed after its order. -/
theorem Engine.dispatched_of_stop (turned : engine.turn session = .stop result final) :
    (final.dispatched = session.dispatched ∧
      (session.workspace.pauseRequested = false → engine.limitReached? session.run = none →
        ∀ dispatch, engine.dispatch session.run session.service session.workspace.files ≠
          .ok dispatch)) ∨
      ∃ dispatch, engine.dispatch session.run session.service session.workspace.files =
        .ok dispatch ∧ final.dispatched = session.dispatched ++ [dispatch.order] := by
  cases Engine.turn_eq_stop_iff.mp turned with
  | completed ended =>
    refine Or.inl ⟨rfl, fun _ _ dispatch dispatched => ?_⟩
    obtain ⟨_, _, _, _, waiting, _⟩ := Engine.dispatch_eq_ok.mp dispatched
    rw [ended] at waiting
    cases waiting
  | paused _ requested =>
    refine Or.inl ⟨rfl, fun unasked => ?_⟩
    rw [requested] at unasked
    cases unasked
  | limited _ _ reached =>
    refine Or.inl ⟨rfl, fun _ below => ?_⟩
    rw [reached] at below
    cases below
  | failed _ _ _ ran =>
    cases Engine.iterates ran with
    | undispatched failed =>
      refine Or.inl ⟨rfl, fun _ _ dispatch dispatched => ?_⟩
      rw [failed] at dispatched
      cases dispatched
    | unanswered dispatched replied =>
      have added := Engine.dispatched_of_execute replied
      exact Or.inr ⟨_, dispatched, added⟩
    | unrouted dispatched replied =>
      have added := Engine.dispatched_of_execute replied
      exact Or.inr ⟨_, dispatched, added⟩

/-- The orders that a call adds, of which the first is the one for its first state. -/
structure Engine.HandsOut (engine : Engine σ) (session : Session σ) (orders : List WorkOrder)
    (final : Session σ) : Prop where
  added : final.dispatched = session.dispatched ++ orders
  /-- The first order is the one that the state at the beginning asks for, and is for
  the step at which that state stands. -/
  first : ∀ order, orders.head? = some order → ∃ dispatch,
    engine.dispatch session.run session.service session.workspace.files = .ok dispatch ∧
      session.run.current = some dispatch.id ∧ dispatch.order = order
  /-- That order is handed out, unless a pause or the limit prevents it. -/
  begun : session.workspace.pauseRequested = false → engine.limitReached? session.run = none →
    ∀ dispatch, engine.dispatch session.run session.service session.workspace.files =
      .ok dispatch → orders.head? = some dispatch.order

private theorem Engine.handsOut_of_drive
    (driven : engine.drive fuel session = some (result, final)) :
    ∃ orders, engine.HandsOut session orders final := by
  obtain ⟨count, last, -, passes, stopped⟩ := Engine.drive_eq_some_iff.mp driven
  clear driven
  -- An iteration that hands out an order settles which one is the first.
  have begins {session : Session σ} {dispatch : Dispatch} {later : List WorkOrder}
      (dispatched :
        engine.dispatch session.run session.service session.workspace.files = .ok dispatch)
      (added : final.dispatched = session.dispatched ++ dispatch.order :: later) :
      engine.HandsOut session (dispatch.order :: later) final := by
    refine ⟨added, ?_, ?_⟩
    · rintro _ ⟨⟩
      obtain ⟨_, _, _, _, waiting, _, _, _, rfl⟩ := Engine.dispatch_eq_ok.mp dispatched
      exact ⟨_, dispatched, waiting, rfl⟩
    · intro _ _ other again
      rw [dispatched] at again
      cases again
      rfl
  induction passes with
  | none session =>
    rcases Engine.dispatched_of_stop stopped with ⟨none, reason⟩ | ⟨dispatch, dispatched, added⟩
    · refine ⟨[], by rw [none, List.append_nil], nofun, fun unasked below dispatch again => ?_⟩
      exact absurd again (reason unasked below dispatch)
    · exact ⟨_, begins dispatched added⟩
  | more turned rest ih =>
    obtain ⟨dispatch, dispatched, added⟩ := Engine.dispatched_of_go turned
    obtain ⟨orders, later⟩ := ih stopped
    have all := later.added
    rw [added, List.append_assoc] at all
    exact ⟨_, begins dispatched all⟩

/-- A call that is under way, is not to pause and hands out no order fails, and leaves its
session as it was. -/
theorem Engine.idle_of_drive {current : StepId} (waiting : session.run.current = some current)
    (unasked : session.workspace.pauseRequested = false)
    (driven : engine.drive fuel session = some (result, final))
    (idle : final.dispatched = session.dispatched) :
    final = session ∧ ∃ error, result = .error error := by
  have added : ∀ order later, final.dispatched ≠ session.dispatched ++ order :: later := by
    intro order later more
    rw [idle] at more
    cases List.self_eq_append_right.mp more
  obtain ⟨count, last, _, passes, stopped⟩ := Engine.drive_eq_some_iff.mp driven
  cases passes with
  | more turned rest =>
    obtain ⟨dispatch, _, first⟩ := Engine.dispatched_of_go turned
    obtain ⟨orders, later⟩ := Engine.handsOut_of_drive
      (Engine.drive_eq_some_iff.mpr ⟨_, last, Nat.lt_succ_self _, rest, stopped⟩)
    have all := later.added
    rw [first, List.append_assoc] at all
    exact absurd all (added _ _)
  | none =>
    cases Engine.turn_eq_stop_iff.mp stopped with
    | completed ended =>
      rw [ended] at waiting
      cases waiting
    | paused _ requested =>
      rw [requested] at unasked
      cases unasked
    | limited => exact ⟨rfl, _, rfl⟩
    | failed _ _ _ ran =>
      cases Engine.iterates ran with
      | undispatched => exact ⟨rfl, _, rfl⟩
      | unanswered _ replied => exact absurd (Engine.dispatched_of_execute replied) (added _ _)
      | unrouted _ replied => exact absurd (Engine.dispatched_of_execute replied) (added _ _)

/-- A call of `resume` goes on with the step at which the run stands, and, where the
limit leaves it room, hands out that step's order as soon as it can be made. -/
theorem Engine.handsOut_of_resume (called : engine.resume fuel session = some (result, final))
    (names : engine.manifest.validateNames = .ok ()) :
    ∃ orders, engine.HandsOut (session.restarted session.run) orders final := by
  rcases Engine.resume_eq_some called with ⟨ended, _, rfl⟩ | ⟨_, invalid, _⟩ | ⟨_, _, driven⟩
  · refine ⟨[], (List.append_nil _).symm, nofun, fun _ _ dispatch dispatched => ?_⟩
    obtain ⟨_, _, _, _, waiting, _⟩ := Engine.dispatch_eq_ok.mp dispatched
    exact absurd (ended.symm.trans waiting) nofun
  · rw [names] at invalid
    cases invalid
  · exact Engine.handsOut_of_drive driven

end StepGraph
