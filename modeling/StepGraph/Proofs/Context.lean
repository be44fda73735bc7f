import StepGraph.Context
import StepGraph.Proofs.Manifest.Lookups

/-! The context of a step can always be put together when the step is declared and
the groups of all open calls are there. The chain of groups is then made of groups
that the manifest has, so that no lookup in the layers can miss. -/
namespace StepGraph.Manifest

variable {manifest : Manifest}

theorem group_of_hasGroup {name : String} (has : manifest.HasGroup name) :
    ∃ group, manifest.group name = .ok group :=
  has.imp fun _ => group_eq_ok.mpr

/-- Ascending through callers whose groups exist finds a chain of existing groups. -/
theorem ascend_hasGroup {chain : List String} {frames : List Frame}
    (has : ∀ name ∈ chain, manifest.HasGroup name)
    (callers : ∀ frame ∈ frames, manifest.HasGroup frame.caller.group) :
    ∃ extended, manifest.ascend chain frames = .ok extended ∧
      ∀ name ∈ extended, manifest.HasGroup name := by
  induction frames generalizing chain with
  | nil => exact ⟨chain, rfl, has⟩
  | cons frame outer ih =>
    have outerCallers : ∀ frame ∈ outer, manifest.HasGroup frame.caller.group :=
      fun caller member => callers caller (List.mem_cons_of_mem _ member)
    obtain ⟨group, found⟩ := group_of_hasGroup (callers frame List.mem_cons_self)
    simp only [ascend, found]
    split
    · exact ih has outerCallers
    · split
      · refine ih ?_ outerCallers
        intro name member
        rcases List.mem_append.mp member with known | added
        · exact has name known
        · exact List.mem_singleton.mp added ▸ callers frame List.mem_cons_self
      · exact ⟨chain, rfl, has⟩

private theorem inheritanceChain_hasGroup {current : StepId} {stack : CallStack}
    (here : manifest.HasGroup current.group)
    (callers : ∀ frame ∈ stack, manifest.HasGroup frame.caller.group) :
    ∃ chain, manifest.inheritanceChain current stack = .ok chain ∧
      ∀ name ∈ chain, manifest.HasGroup name := by
  obtain ⟨group, found⟩ := group_of_hasGroup here
  have alone : ∀ name ∈ [current.group], manifest.HasGroup name := by
    intro name member
    exact List.mem_singleton.mp member ▸ here
  simp only [inheritanceChain, found, bind, Except.bind]
  split
  · exact ascend_hasGroup alone fun frame member => callers frame (List.mem_reverse.mp member)
  · exact ⟨_, rfl, alone⟩

private theorem staticLayer_of_hasGroup {chain : List String}
    (has : ∀ name ∈ chain, manifest.HasGroup name) :
    ∃ layer, manifest.staticLayer chain = .ok layer := by
  induction chain with
  | nil => exact ⟨[], rfl⟩
  | cons name rest ih =>
    obtain ⟨group, found⟩ := group_of_hasGroup (has name List.mem_cons_self)
    obtain ⟨layer, built⟩ := ih fun other member => has other (List.mem_cons_of_mem _ member)
    exact ⟨group.staticLayer name ++ layer, by
      simp [staticLayer, found, built, bind, Except.bind, pure, Except.pure]⟩

/-- The context of a declared step, called from existing groups, can be put together. -/
theorem context_of_declares (situation : Situation) (declared : manifest.Declares situation.id)
    (callers : ∀ frame ∈ situation.stack, manifest.HasGroup frame.caller.group) :
    ∃ context, manifest.context situation = .ok context := by
  obtain ⟨step, found⟩ := declared
  have here : manifest.HasGroup situation.id.group := Declares.hasGroup ⟨step, found⟩
  obtain ⟨chain, chained, has⟩ := inheritanceChain_hasGroup here callers
  obtain ⟨layer, built⟩ := staticLayer_of_hasGroup has
  unfold Manifest.context
  rw [found, chained]
  simp only [bind, Except.bind, built]
  exact ⟨_, rfl⟩

/-- Nothing but an undeclared group or step is in the way of finding a step. -/
theorem undeclared_of_step {id : StepId} {error : RunError}
    (failed : manifest.step id = .error error) : error.Undeclared := by
  unfold Manifest.step at failed
  rcases bind_eq_error.mp failed with missing | ⟨group, _, failed⟩
  · obtain ⟨_, rfl⟩ := group_eq_error.mp missing
    trivial
  · split at failed
    · cases failed
    · cases failed
      trivial

private theorem undeclared_of_inheritanceChain {current : StepId} {stack : CallStack}
    {error : RunError} (failed : manifest.inheritanceChain current stack = .error error) :
    error.Undeclared := by
  rcases bind_eq_error.mp failed with missing | ⟨group, _, failed⟩
  · obtain ⟨_, rfl⟩ := group_eq_error.mp missing
    trivial
  split at failed
  · -- The chain grows while the calls are gone through.
    generalize [current.group] = chain, stack.reverse = frames at failed
    induction frames generalizing chain with
    | nil => cases failed
    | cons frame outer ih =>
      unfold ascend at failed
      dsimp only at failed
      split at failed
      · exact ih chain failed
      · split at failed
        · rename_i missing
          obtain ⟨_, rfl⟩ := group_eq_error.mp missing
          cases failed
          trivial
        · split at failed
          · exact ih _ failed
          · cases failed
  · cases failed

private theorem undeclared_of_staticLayer {chain : List String} {error : RunError}
    (failed : manifest.staticLayer chain = .error error) : error.Undeclared := by
  induction chain with
  | nil => cases failed
  | cons name rest ih =>
    rcases bind_eq_error.mp failed with missing | ⟨group, _, failed⟩
    · obtain ⟨_, rfl⟩ := group_eq_error.mp missing
      trivial
    · rcases bind_eq_error.mp failed with others | ⟨_, _, impossible⟩
      · exact ih others
      · cases impossible

/-- Nor is anything else in the way of putting a context together. -/
theorem undeclared_of_context {situation : Situation} {error : RunError}
    (failed : manifest.context situation = .error error) : error.Undeclared := by
  rcases bind_eq_error.mp failed with missing | ⟨step, _, failed⟩
  · exact undeclared_of_step missing
  rcases bind_eq_error.mp failed with broken | ⟨chain, _, failed⟩
  · exact undeclared_of_inheritanceChain broken
  rcases bind_eq_error.mp failed with broken | ⟨_, _, impossible⟩
  · exact undeclared_of_staticLayer broken
  · cases impossible

end StepGraph.Manifest
