import Mathlib.Algebra.Group.Nat.Even
import Mathlib.Data.List.Perm.Subperm
import StepGraph.Plan

/-! What plans do to a history. An operation other than the reversal keeps some of the entries
where they stand. So a plan selects: what it gives is part of the history, read forwards or
backwards, and which of the two is settled by the number of its reversals alone. -/
namespace StepGraph

variable {plan : Plan} {payload : Payload} {op : PlanOp} {entry : Entry}

private theorem PlanOp.keepFirst_sublist (seen : List String) (payload : Payload) :
    (PlanOp.keepFirst seen payload).Sublist payload := by
  induction payload generalizing seen with
  | nil => exact List.Sublist.slnil
  | cons entry rest ih =>
    unfold PlanOp.keepFirst
    split
    · exact (ih seen).cons entry
    · exact (ih _).cons_cons entry

/-- An operation that is no reversal keeps entries in their order. -/
theorem PlanOp.apply_sublist (forward : op ≠ .reverse) (payload : Payload) :
    (op.apply payload).Sublist payload := by
  cases op with
  | first count => exact List.take_sublist _ _
  | last count => exact List.drop_sublist _ _
  | includeKinds kinds => exact List.filter_sublist
  | excludeKinds kinds => exact List.filter_sublist
  | dedupe =>
    -- Of the reversed payload the first entries are kept, which are its last ones.
    have kept := (PlanOp.keepFirst_sublist [] payload.reverse).reverse
    rwa [List.reverse_reverse] at kept
  | reverse => exact absurd rfl forward

/-- The last entries are the first ones from behind. -/
theorem PlanOp.apply_last (count : UInt64) (payload : Payload) :
    (PlanOp.last count).apply payload = ((PlanOp.first count).apply payload.reverse).reverse := by
  simp only [PlanOp.apply]
  rw [List.take_reverse, List.reverse_reverse]

private theorem Plan.apply_cons (op : PlanOp) (plan : Plan) (payload : Payload) :
    Plan.apply (op :: plan) payload = plan.apply (op.apply payload) := rfl

/-- Two plans in a row are one plan. -/
theorem Plan.apply_append (plan next : Plan) (payload : Payload) :
    Plan.apply (plan ++ next) payload = next.apply (plan.apply payload) :=
  List.foldl_append

/-- The payload in the direction in which a plan leaves it. -/
def Plan.facing (plan : Plan) (payload : Payload) : Payload :=
  if Even (plan.count .reverse) then payload else payload.reverse

/-- A reversal turns the direction around. -/
theorem Plan.facing_cons_reverse (plan : Plan) (payload : Payload) :
    Plan.facing (.reverse :: plan) payload = plan.facing payload.reverse := by
  unfold Plan.facing
  rw [List.count_cons_self, List.reverse_reverse]
  by_cases even : Even (plan.count .reverse)
  · rw [if_neg (Nat.even_add_one.not.mpr (not_not.mpr even)), if_pos even]
  · rw [if_pos (Nat.even_add_one.mpr even), if_neg even]

/-- Every other operation leaves it. -/
theorem Plan.facing_cons_of_ne (forward : op ≠ .reverse) (plan : Plan) (payload : Payload) :
    Plan.facing (op :: plan) payload = plan.facing payload := by
  unfold Plan.facing
  rw [List.count_cons_of_ne forward]

private theorem Plan.facing_sublist {kept : Payload} (part : kept.Sublist payload) (plan : Plan) :
    (plan.facing kept).Sublist (plan.facing payload) := by
  unfold Plan.facing
  split
  · exact part
  · exact part.reverse

/-- A plan gives part of the payload, in the direction in which it leaves it. -/
theorem Plan.apply_sublist_facing (plan : Plan) (payload : Payload) :
    (plan.apply payload).Sublist (plan.facing payload) := by
  induction plan generalizing payload with
  | nil => exact List.Sublist.refl payload
  | cons op rest ih =>
    rw [Plan.apply_cons]
    by_cases turns : op = .reverse
    · subst turns
      rw [Plan.facing_cons_reverse]
      exact ih payload.reverse
    · rw [Plan.facing_cons_of_ne turns]
      exact (ih _).trans (Plan.facing_sublist (PlanOp.apply_sublist turns payload) rest)

/-- A plan keeps each entry at most as often as it is there. -/
theorem Plan.apply_subperm (plan : Plan) (payload : Payload) :
    (plan.apply payload).Subperm payload := by
  have part := (plan.apply_sublist_facing payload).subperm
  unfold Plan.facing at part
  split at part
  · exact part
  · exact part.trans (List.reverse_perm payload).subperm

/-- A plan makes up no entry. -/
theorem Plan.mem_of_mem_apply (member : entry ∈ plan.apply payload) : entry ∈ payload :=
  (plan.apply_subperm payload).subset member

/-- A plan only selects. With an even number of reversals it gives part of the payload, each entry
as it is and in its place, and with an odd number part of the reversed payload; plans in a row do
what they do as one plan; and the last entries can also be had with two reversals around the first,
however few entries there are. -/
theorem plans_only_select (plan next : Plan) (payload : Payload) (count : UInt64) :
    (plan.apply payload).Sublist
        (if Even (plan.count .reverse) then payload else payload.reverse) ∧
      Plan.apply (plan ++ next) payload = next.apply (plan.apply payload) ∧
      Plan.apply [.last count] payload =
        Plan.apply [.reverse, .first count, .reverse] payload :=
  ⟨plan.apply_sublist_facing payload, plan.apply_append next payload,
    PlanOp.apply_last count payload⟩

end StepGraph
