import Mathlib.Data.List.FinRange
import StepGraph.Plan

/-! Which entries are kept when only the latest of each id is. They are picked from behind, with
the ids that have been seen so far at hand; what is kept then depends only on which ids have been
seen, and not on their order or number. So an entry stays where it stands exactly when its id does
not come again behind it. -/
namespace StepGraph

variable {payload front back : Payload} {entry : Entry} {seen other : List String} {id : String}

namespace PlanOp

/-- Only which ids have been seen makes a difference. -/
theorem keepFirst_congr (same : ∀ id, id ∈ seen ↔ id ∈ other) (payload : Payload) :
    keepFirst seen payload = keepFirst other payload := by
  induction payload generalizing seen other with
  | nil => rfl
  | cons entry rest ih =>
    have next : ∀ id, id ∈ entry.id :: seen ↔ id ∈ entry.id :: other := by
      intro id
      simp [same id]
    by_cases known : entry.id ∈ seen
    · have again := (same entry.id).mp known
      simp [keepFirst, known, again, ih same]
    · have unknown : entry.id ∉ other := fun member => known ((same entry.id).mpr member)
      simp [keepFirst, known, unknown, ih next]

/-- An id that has been seen before is seen once more. -/
theorem keepFirst_cons_of_mem (known : id ∈ seen) (payload : Payload) :
    keepFirst (id :: seen) payload = keepFirst seen payload := by
  apply keepFirst_congr
  intro next
  rw [List.mem_cons, or_iff_right_of_imp]
  rintro rfl
  exact known

/-- What has been seen in front of the entries is left out at the end as well. -/
theorem keepFirst_append_seen (other seen : List String) (payload : Payload) :
    keepFirst (other ++ seen) payload =
      (keepFirst other payload).filter fun entry => entry.id ∉ seen := by
  induction payload generalizing other with
  | nil => rfl
  | cons entry rest ih =>
    by_cases known : entry.id ∈ other
    · simp [keepFirst, known, ih]
    by_cases before : entry.id ∈ seen
    · -- The entry is kept by the second scan alone, and is then taken out by the filter.
      have step := ih (entry.id :: other)
      rw [List.cons_append, keepFirst_cons_of_mem (List.mem_append_right other before)] at step
      simp [keepFirst, known, before, step]
    · have step := ih (entry.id :: other)
      rw [List.cons_append] at step
      simp [keepFirst, known, before, step]

private theorem keepFirst_eq_filter (seen : List String) (payload : Payload) :
    keepFirst seen payload = (keepFirst [] payload).filter fun entry => entry.id ∉ seen :=
  keepFirst_append_seen [] seen payload

/-- In the entries behind others, the ids of those have been seen as well. -/
theorem keepFirst_append (seen : List String) (front back : Payload) :
    keepFirst seen (front ++ back) =
      keepFirst seen front ++ keepFirst (front.map Entry.id ++ seen) back := by
  induction front generalizing seen with
  | nil => rfl
  | cons entry rest ih =>
    by_cases known : entry.id ∈ seen
    · have again := keepFirst_cons_of_mem (List.mem_append_right (rest.map Entry.id) known) back
      simp [keepFirst, known, ih, again]
    · have moved : keepFirst (rest.map Entry.id ++ entry.id :: seen) back =
          keepFirst (entry.id :: (rest.map Entry.id ++ seen)) back := by
        apply keepFirst_congr
        intro id
        simp only [List.mem_append, List.mem_cons]
        exact or_left_comm
      simp [keepFirst, known, ih, moved]

/-- Of two parts the second decides: what comes again in it is dropped from the first. -/
theorem dedupe_append (front back : Payload) :
    dedupe.apply (front ++ back) =
      ((dedupe.apply front).filter fun entry => entry.id ∉ back.map Entry.id) ++
        dedupe.apply back := by
  have scanned := keepFirst_append [] back.reverse front.reverse
  rw [keepFirst_eq_filter (back.reverse.map Entry.id ++ [])] at scanned
  simp only [PlanOp.apply, List.reverse_append, scanned, List.filter_reverse]
  simp

/-- An entry in front of others stays unless its id comes again. -/
theorem dedupe_cons (entry : Entry) (rest : Payload) :
    dedupe.apply (entry :: rest) =
      if entry.id ∈ rest.map Entry.id then dedupe.apply rest
      else entry :: dedupe.apply rest := by
  have alone : dedupe.apply [entry] = [entry] := rfl
  have whole := dedupe_append [entry] rest
  rw [alone, List.singleton_append] at whole
  rw [whole]
  by_cases again : entry.id ∈ rest.map Entry.id
  · rw [if_pos again, List.filter_cons_of_neg (by simpa using again)]
    rfl
  · rw [if_neg again, List.filter_cons_of_pos (by simpa using again)]
    rfl

theorem dedupe_nil : dedupe.apply [] = [] := rfl

/-- No id is lost, and none is made up. -/
theorem mem_ids_dedupe : id ∈ (dedupe.apply payload).map Entry.id ↔ id ∈ payload.map Entry.id := by
  induction payload with
  | nil => rfl
  | cons entry rest ih =>
    rw [dedupe_cons]
    by_cases again : entry.id ∈ rest.map Entry.id
    · rw [if_pos again, ih, List.map_cons, List.mem_cons, or_iff_right_of_imp]
      rintro rfl
      exact again
    · rw [if_neg again, List.map_cons, List.map_cons, List.mem_cons, List.mem_cons, ih]

private theorem nodup_ids_dedupe (payload : Payload) :
    ((dedupe.apply payload).map Entry.id).Nodup := by
  induction payload with
  | nil => exact List.nodup_nil
  | cons entry rest ih =>
    rw [dedupe_cons]
    by_cases again : entry.id ∈ rest.map Entry.id
    · rwa [if_pos again]
    · rw [if_neg again, List.map_cons, List.nodup_cons, mem_ids_dedupe]
      exact ⟨again, ih⟩

private theorem find?_id_eq_none_iff :
    payload.reverse.find? (·.id = id) = none ↔ id ∉ payload.map Entry.id := by
  simp

/-- An entry that is kept is the last with its id. -/
theorem mem_dedupe_iff :
    entry ∈ dedupe.apply payload ↔ payload.reverse.find? (·.id = entry.id) = some entry := by
  induction payload with
  | nil => simp [dedupe_nil]
  | cons first rest ih =>
    rw [List.reverse_cons, List.find?_append, Option.or_eq_some_iff, ← ih,
      find?_id_eq_none_iff, List.find?_singleton, dedupe_cons]
    by_cases again : first.id ∈ rest.map Entry.id
    · rw [if_pos again, iff_self_or]
      rintro ⟨new, found⟩
      split at found
      · rename_i same
        exact absurd (of_decide_eq_true same ▸ again) new
      · cases found
    · rw [if_neg again, List.mem_cons, or_comm, or_congr_right]
      constructor
      · rintro rfl
        exact ⟨again, by simp⟩
      · rintro ⟨_, found⟩
        split at found
        · cases found
          rfl
        · cases found

/-- Entries with different ids are all kept. -/
theorem dedupe_of_nodup (distinct : (payload.map Entry.id).Nodup) :
    dedupe.apply payload = payload := by
  induction payload with
  | nil => rfl
  | cons entry rest ih =>
    obtain ⟨new, others⟩ := List.nodup_cons.mp distinct
    rw [dedupe_cons, if_neg new, ih others]

end PlanOp

/-- The positions behind which the id at the position does not come again. -/
def Payload.latest (payload : Payload) : List (Fin payload.length) :=
  (List.finRange payload.length).filter fun position =>
    ∀ later, position < later → (payload.get later).id ≠ (payload.get position).id

/-- Of the first position the entries behind it decide, and the other positions are those of these
entries by themselves. -/
theorem Payload.latest_cons (entry : Entry) (rest : Payload) :
    Payload.latest (entry :: rest) =
      (if entry.id ∈ rest.map Entry.id then [] else [0]) ++ rest.latest.map Fin.succ := by
  have first : (∀ later : Fin (rest.length + 1), 0 < later →
      (List.get (entry :: rest) later).id ≠ (List.get (entry :: rest) 0).id) ↔
        entry.id ∉ rest.map Entry.id := by
    simp [Fin.forall_fin_succ, List.mem_iff_get (l := rest)]
  have behind (position : Fin rest.length) : (∀ later : Fin (rest.length + 1),
      position.succ < later →
        (List.get (entry :: rest) later).id ≠ (List.get (entry :: rest) position.succ).id) ↔
      ∀ later, position < later → (rest.get later).id ≠ (rest.get position).id := by
    simp [Fin.forall_fin_succ]
  show (List.finRange (rest.length + 1)).filter _ = _
  rw [List.finRange_succ, List.filter_cons, List.filter_map]
  simp only [Function.comp_def, List.length_cons, first, behind, decide_eq_true_eq]
  by_cases again : entry.id ∈ rest.map Entry.id
  · rw [if_neg (not_not.mpr again), if_pos again]
    rfl
  · rw [if_pos again, if_neg again]
    rfl

/-- The entries that are kept are those at these positions. -/
theorem PlanOp.dedupe_eq_latest (payload : Payload) :
    PlanOp.dedupe.apply payload = payload.latest.map payload.get := by
  induction payload with
  | nil => rfl
  | cons entry rest ih =>
    have behind : List.get (entry :: rest) ∘ Fin.succ = rest.get := rfl
    rw [PlanOp.dedupe_cons, Payload.latest_cons, List.map_append, List.map_map, behind, ← ih]
    by_cases again : entry.id ∈ rest.map Entry.id
    · rw [if_pos again, if_pos again]
      rfl
    · rw [if_neg again, if_neg again]
      rfl

/-- Of the entries with one id the latest is kept, and it stays where it stands: what is left are the
entries at the positions behind which their ids do not come again, in their order. So their ids
differ, no id is lost, each of them is the last with its id, nothing changes when it is done again,
and of two parts the second takes the ids that both have. -/
theorem latest_entries_are_kept (payload front back : Payload) :
    PlanOp.dedupe.apply payload = payload.latest.map payload.get ∧
      ((PlanOp.dedupe.apply payload).map Entry.id).Nodup ∧
      (∀ id, id ∈ (PlanOp.dedupe.apply payload).map Entry.id ↔ id ∈ payload.map Entry.id) ∧
      (∀ entry, entry ∈ PlanOp.dedupe.apply payload ↔
        payload.reverse.find? (·.id = entry.id) = some entry) ∧
      PlanOp.dedupe.apply (PlanOp.dedupe.apply payload) = PlanOp.dedupe.apply payload ∧
      PlanOp.dedupe.apply (front ++ back) =
        ((PlanOp.dedupe.apply front).filter fun entry => entry.id ∉ back.map Entry.id) ++
          PlanOp.dedupe.apply back := by
  have distinct := PlanOp.nodup_ids_dedupe payload
  exact ⟨PlanOp.dedupe_eq_latest payload, distinct, fun _ => PlanOp.mem_ids_dedupe,
    fun _ => PlanOp.mem_dedupe_iff, PlanOp.dedupe_of_nodup distinct,
    PlanOp.dedupe_append front back⟩

end StepGraph
