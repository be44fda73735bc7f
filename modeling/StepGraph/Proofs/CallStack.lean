import StepGraph.Proofs.Manifest.Lookups
import StepGraph.Proofs.StepId

/-! Where actions lead. A property that the current step has, and every step that
an open call names, is handed on by an action to the next step and to the calls
that are open then, as long as the steps that the manifest itself brings in have
it. Safety and readability of runs are both instances of this one statement. -/
namespace StepGraph

variable {manifest : Manifest} {current : StepId} {stack : CallStack} {group : String} {id : StepId}

/-- Every step that a place in a run names has the property: the one that is next,
and the callers and the places to resume at of all open calls. -/
structure Continuation.Everywhere (P : StepId → Prop) (place : Continuation) : Prop where
  next : ∀ id, place.next = some id → P id
  callers : ∀ frame ∈ place.stack, P frame.caller
  resumes : ∀ frame ∈ place.stack, ∀ id, frame.resume = some id → P id

/-- Going back keeps the outermost calls and closes the others. -/
theorem unwind_keeps_outermost (frames : List Frame) :
    (unwind frames).stack <+: frames.reverse := by
  induction frames with
  | nil => exact List.nil_prefix
  | cons frame outer ih =>
    obtain ⟨caller, resume⟩ := frame
    rw [List.reverse_cons]
    cases resume with
    | some id => exact List.prefix_append _ _
    | none => exact ih.trans (List.prefix_append _ _)

/-- Going back leads to where one of the calls resumes. -/
theorem unwind_next_resumes {frames : List Frame} (next : (unwind frames).next = some id) :
    ∃ frame ∈ frames, frame.resume = some id := by
  induction frames with
  | nil => cases next
  | cons frame outer ih =>
    obtain ⟨caller, resume⟩ := frame
    cases resume with
    | some place => exact ⟨_, List.mem_cons_self, next⟩
    | none =>
      obtain ⟨found, member, resumes⟩ := ih next
      exact ⟨found, List.mem_cons_of_mem _ member, resumes⟩

/-- Going back through the innermost calls stops at one of them and leaves all others
open, or goes on through the others as if those had not been there. -/
theorem unwind_append (inner outer : List Frame) :
    outer.reverse <+: (unwind (inner ++ outer)).stack ∨ unwind (inner ++ outer) = unwind outer := by
  induction inner with
  | nil => exact Or.inr rfl
  | cons frame rest ih =>
    obtain ⟨caller, resume⟩ := frame
    cases resume with
    | some id =>
      refine Or.inl ?_
      simp only [List.cons_append, unwind, List.reverse_append]
      exact List.prefix_append _ _
    | none => exact ih

/-- Going back through a call closes it, and no call is opened by that. -/
theorem length_unwind_cons_le (frame : Frame) (outer : List Frame) :
    (unwind (frame :: outer)).stack.length ≤ outer.length := by
  obtain ⟨caller, resume⟩ := frame
  cases resume with
  | some id => simp [unwind]
  | none =>
    have shorter := (unwind_keeps_outermost outer).length_le
    rwa [List.length_reverse] at shorter

/-- Only the manifest is to blame if its names form no ids. -/
theorem Manifest.isStructural_of_validateNames {error : RunError}
    (failed : manifest.validateNames = .error error) : error.isStructural = true := by
  unfold Manifest.validateNames at failed
  split at failed
  · cases failed
    rfl
  · cases failed

/-- Only the manifest is to blame if a group cannot be entered. -/
theorem Manifest.isStructural_of_entryOf {error : RunError}
    (failed : manifest.entryOf group = .error error) : error.isStructural = true := by
  unfold Manifest.entryOf at failed
  rcases bind_eq_error.mp failed with missing | ⟨found, _, failed⟩
  · obtain ⟨_, rfl⟩ := group_eq_error.mp missing
    rfl
  · rcases bind_eq_error.mp failed with invalid | ⟨entry, _, failed⟩
    · obtain ⟨_, rfl⟩ := validId_eq_error invalid
      rfl
    · split at failed
      · cases failed
      · cases failed
        rfl

/-- Only the manifest is to blame if what stands behind a step cannot be told. -/
theorem Manifest.isStructural_of_stepAfter {error : RunError}
    (failed : manifest.stepAfter id = .error error) : error.isStructural = true := by
  unfold Manifest.stepAfter at failed
  rcases bind_eq_error.mp failed with missing | ⟨found, _, failed⟩
  · obtain ⟨_, rfl⟩ := group_eq_error.mp missing
    rfl
  · split at failed
    · cases failed
      rfl
    · cases failed
    · have invalid := map_eq_error.mp failed
      obtain ⟨_, rfl⟩ := validId_eq_error invalid
      rfl

namespace Action

theorem interpret_eq_ok {raw : String} {action : Action} {continuation : Continuation} :
    interpret manifest current stack raw = .ok (action, continuation) ↔
      parse raw = .ok action ∧ action.reduce manifest current stack = .ok continuation := by
  simp only [interpret, bind_eq_ok, mapError_eq_ok]
  constructor
  · rintro ⟨_, read, _, reduced, same⟩
    cases same
    exact ⟨read, reduced⟩
  · rintro ⟨read, reduced⟩
    exact ⟨action, read, continuation, reduced, rfl⟩

theorem interpret_eq_error {raw : String} {error : RunError}
    (failed : interpret manifest current stack raw = .error error) :
    (∃ defect, parse raw = .error defect ∧ error = .invalidAction current raw defect) ∨
      ∃ action, parse raw = .ok action ∧ action.reduce manifest current stack = .error error := by
  simp only [interpret] at failed
  rcases bind_eq_error.mp failed with unread | ⟨action, read, failed⟩
  · obtain ⟨defect, read, same⟩ := mapError_eq_error.mp unread
    exact Or.inl ⟨defect, read, same.symm⟩
  · rcases bind_eq_error.mp failed with reduced | ⟨_, _, impossible⟩
    · exact Or.inr ⟨action, mapError_eq_ok.mp read, reduced⟩
    · cases impossible

/-- A call pushes the frame that comes back behind the calling step. -/
theorem reduce_call_eq_ok {continuation : Continuation} :
    (call group).reduce manifest current stack = .ok continuation ↔
      ∃ entry behind, manifest.entryOf group = .ok entry ∧ manifest.stepAfter current = .ok behind ∧
        continuation = ⟨some entry, stack ++ [⟨current, behind⟩]⟩ := by
  simp only [reduce, Manifest.returnFrame, bind_eq_ok]
  constructor
  · rintro ⟨entry, entered, frame, ⟨behind, after, framed⟩, same⟩
    cases framed
    cases same
    exact ⟨entry, behind, entered, after, rfl⟩
  · rintro ⟨entry, behind, entered, after, rfl⟩
    exact ⟨entry, entered, _, ⟨behind, after, rfl⟩, rfl⟩

theorem reduce_call_eq_error {error : RunError}
    (failed : (call group).reduce manifest current stack = .error error) :
    manifest.entryOf group = .error error ∨ manifest.stepAfter current = .error error := by
  simp only [reduce, Manifest.returnFrame] at failed
  rcases bind_eq_error.mp failed with missing | ⟨entry, _, failed⟩
  · exact Or.inl missing
  · rcases bind_eq_error.mp failed with unframed | ⟨_, _, impossible⟩
    · rcases bind_eq_error.mp unframed with missing | ⟨_, _, impossible⟩
      · exact Or.inr missing
      · cases impossible
    · cases impossible

/-- Only the manifest is to blame if an action cannot be followed. -/
theorem isStructural_of_interpret {raw : String} {error : RunError}
    (failed : interpret manifest current stack raw = .error error) : error.isStructural = true := by
  rcases interpret_eq_error failed with ⟨_, _, rfl⟩ | ⟨action, _, unreduced⟩
  · rfl
  · cases action with
    | jump target => cases unreduced
    | call group =>
      rcases reduce_call_eq_error unreduced with missing | missing
      · exact Manifest.isStructural_of_entryOf missing
      · exact Manifest.isStructural_of_stepAfter missing
    | goBack => cases unreduced

/-- What an action may lead to: its target, the first step of a group, the step
behind the current one, or where an open call resumes. -/
theorem reduce_everywhere {P : StepId → Prop} {action : Action} {continuation : Continuation}
    (everywhere : Continuation.Everywhere P ⟨some current, stack⟩)
    (target : ∀ id, action = .jump id → P id)
    (entry : ∀ group id, action = .call group → manifest.entryOf group = .ok id → P id)
    (behind : ∀ id, manifest.stepAfter current = .ok (some id) → P id)
    (reduced : action.reduce manifest current stack = .ok continuation) :
    continuation.Everywhere P := by
  cases action with
  | jump id =>
    cases reduced
    exact ⟨fun _ next => Option.some.inj next ▸ target id rfl, everywhere.callers,
      everywhere.resumes⟩
  | call group =>
    obtain ⟨first, after, entered, following, rfl⟩ := reduce_call_eq_ok.mp reduced
    refine ⟨fun _ next => Option.some.inj next ▸ entry group first rfl entered, ?_, ?_⟩
    · intro frame member
      rcases List.mem_append.mp member with pending | pushed
      · exact everywhere.callers frame pending
      · rw [List.mem_singleton.mp pushed]
        exact everywhere.next current rfl
    · intro frame member id resume
      rcases List.mem_append.mp member with pending | pushed
      · exact everywhere.resumes frame pending id resume
      · rw [List.mem_singleton.mp pushed] at resume
        cases resume
        exact behind id following
  | goBack =>
    cases reduced
    have kept : ∀ frame ∈ (unwind stack.reverse).stack, frame ∈ stack := by
      intro frame member
      simpa using (unwind_keeps_outermost stack.reverse).subset member
    refine ⟨?_, fun frame member => everywhere.callers frame (kept frame member),
      fun frame member => everywhere.resumes frame (kept frame member)⟩
    intro id next
    obtain ⟨frame, member, resume⟩ := unwind_next_resumes next
    exact everywhere.resumes frame (List.mem_reverse.mp member) id resume

/-- A call that is open after an action was open before, or is a call of the current step. -/
theorem mem_stack_of_reduce {action : Action} {place : Continuation} {frame : Frame}
    (reduced : action.reduce manifest current stack = .ok place) (member : frame ∈ place.stack) :
    frame ∈ stack ∨ frame.caller = current := by
  cases action with
  | jump target =>
    cases reduced
    exact Or.inl member
  | call group =>
    obtain ⟨_, _, _, _, rfl⟩ := reduce_call_eq_ok.mp reduced
    rcases List.mem_append.mp member with opened | pushed
    · exact Or.inl opened
    · exact Or.inr (congrArg Frame.caller (List.mem_singleton.mp pushed))
  | goBack =>
    cases reduced
    exact Or.inl (by simpa using (unwind_keeps_outermost stack.reverse).subset member)

/-- An action leaves a call and all calls outside it open, or goes back through it. -/
theorem reduce_keeps_or_closes {outer : CallStack} {frame : Frame} {action : Action}
    {place : Continuation} (opened : outer ++ [frame] <+: stack)
    (reduced : action.reduce manifest current stack = .ok place) :
    outer ++ [frame] <+: place.stack ∨
      action = .goBack ∧ place = unwind (frame :: outer.reverse) := by
  cases action with
  | jump target =>
    cases reduced
    exact Or.inl opened
  | call group =>
    obtain ⟨_, _, _, _, rfl⟩ := reduce_call_eq_ok.mp reduced
    exact Or.inl (opened.trans (List.prefix_append _ _))
  | goBack =>
    cases reduced
    obtain ⟨inner, rfl⟩ := opened
    have reversed : (outer ++ [frame] ++ inner).reverse =
        inner.reverse ++ frame :: outer.reverse := by
      simp
    rw [reversed]
    rcases unwind_append inner.reverse (frame :: outer.reverse) with kept | closed
    · exact Or.inl (by simpa using kept)
    · exact Or.inr ⟨rfl, closed⟩

end Action
end StepGraph
