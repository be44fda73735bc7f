import Mathlib.Algebra.BigOperators.Group.Finset.Basic
import Mathlib.Algebra.GroupWithZero.Nat
import StepGraph.Proofs.Engine.Log
import StepGraph.Proofs.Engine.Persistence

/-! What a snapshot says of the steps. A run only ever executes steps that are declared, and each
iteration puts one of them into the log; a snapshot lists the declared steps, each of them once. So
the executions that it shows step by step are all that there have been, whatever jumps and calls have
led from one to the next. -/
namespace StepGraph

namespace Manifest

variable {manifest : Manifest}

/-- One step stands before another: its group has the smaller name, or the two are of one group, in
which it is declared earlier. -/
def Precedes (manifest : Manifest) (first second : StepId) : Prop :=
  first.group < second.group ∨
    first.group = second.group ∧ ∃ group, manifest.groups.get? first.group = some group ∧
      [first.step, second.step].Sublist group.steps.keys

/-- No step stands before itself. -/
theorem Precedes.ne {first second : StepId} (precedes : manifest.Precedes first second) :
    first ≠ second := by
  rintro rfl
  rcases precedes with before | ⟨-, group, -, twice⟩
  · exact String.lt_irrefl _ before
  · have once := group.steps.nodup_keys.sublist twice
    simp at once

/-- The declared steps come in order. -/
theorem pairwise_stepIds (manifest : Manifest) : manifest.stepIds.Pairwise manifest.Precedes := by
  rw [stepIds, List.pairwise_flatMap]
  constructor
  · rintro ⟨name, group⟩ member
    have found := SortedMap.get?_eq_some.mpr member
    rw [List.pairwise_map, List.pairwise_iff_forall_sublist]
    intro first second behind
    exact Or.inr ⟨rfl, group, found, behind⟩
  · refine (List.pairwise_map.mp manifest.groups.sorted_keys).imp ?_
    intro first second before id among other member
    obtain ⟨_, -, rfl⟩ := List.mem_map.mp among
    obtain ⟨_, -, rfl⟩ := List.mem_map.mp member
    exact Or.inl before

private theorem nodup_stepIds (manifest : Manifest) : manifest.stepIds.Nodup :=
  manifest.pairwise_stepIds.imp Precedes.ne

end Manifest

/-- Counted one by one over ids that are all there are, and none twice, the members of a list are as
many as the list is long. -/
theorem sum_count_eq_length {ids visited : List StepId} (nodup : ids.Nodup)
    (inside : ∀ id ∈ visited, id ∈ ids) : (ids.map visited.count).sum = visited.length := by
  have counted : ∑ id ∈ ids.toFinset, (visited : Multiset StepId).count id = visited.length :=
    Multiset.sum_count_eq_card fun id member => List.mem_toFinset.mpr (inside id member)
  rw [List.sum_toFinset _ nodup] at counted
  simpa using counted

/-- The logged steps are declared. -/
theorem RunState.Accounted.declares {manifest : Manifest} {first : StepId} {state : RunState}
    (accounted : state.Accounted manifest first) {entry : LogEntry} (logged : entry ∈ state.log) :
    manifest.Declares entry.step := by
  obtain ⟨_, step, found, _⟩ := accounted.entries entry logged
  exact ⟨step, found⟩

/-- A snapshot accounts for the executions that a state has come from. -/
structure Snapshot.AccountsFor (snapshot : Snapshot) (manifest : Manifest) (state : RunState) :
    Prop where
  /-- The declared steps are listed, -/
  listed : ∀ id, id ∈ snapshot.steps.map StepState.id ↔ manifest.Declares id
  /-- none twice, group by group in the order of the names, and then as they are declared. -/
  ordered : (snapshot.steps.map StepState.id).Pairwise manifest.Precedes
  once : (snapshot.steps.map StepState.id).Nodup
  runs : ∀ step ∈ snapshot.steps, step.runs = (state.log.map LogEntry.step).count step.id
  total : (snapshot.steps.map StepState.runs).sum = snapshot.iterations
  active : ∀ step ∈ snapshot.steps, step.status = .active ↔ snapshot.current = some step.id
  completed : ∀ step ∈ snapshot.steps, step.status = .completed ↔
    snapshot.current ≠ some step.id ∧ ∃ entry ∈ state.log, entry.step = step.id
  pending : ∀ step ∈ snapshot.steps, step.status = .pending ↔
    snapshot.current ≠ some step.id ∧ ∀ entry ∈ state.log, entry.step ≠ step.id
  logLength : snapshot.logLength = state.log.length
  /-- The log that is shown is the end of the whole log, and all of it up to twenty entries. -/
  log : ∃ earlier, state.log = earlier ++ snapshot.log ∧
    snapshot.log.length = min 20 snapshot.logLength

namespace RunState

variable {manifest : Manifest} {state : RunState}

/-- How a step stands follows from where the run stands and from how often the step has run. -/
theorem status_stepState (state : RunState) (id : StepId) :
    ((state.stepState id).status = .active ↔ state.current = some id) ∧
    ((state.stepState id).status = .completed ↔ state.current ≠ some id ∧ id ∈ state.completed) ∧
    ((state.stepState id).status = .pending ↔ state.current ≠ some id ∧ id ∉ state.completed) := by
  by_cases next : state.current = some id
  · simp [stepState, next]
  · by_cases ran : id ∈ state.completed <;> simp [stepState, next, ran, List.count_pos_iff]

private theorem Accounted.snapshot {first : StepId} (accounted : state.Accounted manifest first)
    (status : RunStatus) : (state.snapshot manifest.shape status).AccountsFor manifest state := by
  have listed : (state.snapshot manifest.shape status).steps.map StepState.id =
      manifest.stepIds := by
    simp [RunState.snapshot, Manifest.stepIds_shape, Function.comp_def, stepState]
  have shown {step : StepState} (member : step ∈ (state.snapshot manifest.shape status).steps) :
      state.stepState step.id = step := by
    obtain ⟨id, -, rfl⟩ := List.mem_map.mp member
    rfl
  have ran (id : StepId) : id ∈ state.completed ↔ ∃ entry ∈ state.log, entry.step = id := by
    rw [accounted.completed, List.mem_map]
  constructor
  case listed => exact fun id => listed ▸ Manifest.mem_stepIds
  case ordered => exact listed ▸ manifest.pairwise_stepIds
  case once => exact listed ▸ manifest.nodup_stepIds
  case runs =>
    intro step member
    rw [← accounted.completed, ← shown member]
    rfl
  case total =>
    have inside : ∀ id ∈ state.completed, id ∈ manifest.stepIds := by
      intro id member
      obtain ⟨entry, logged, rfl⟩ := (ran id).mp member
      exact Manifest.mem_stepIds.mpr (accounted.declares logged)
    have counted := sum_count_eq_length manifest.nodup_stepIds inside
    have length : state.completed.length = state.iterations := by
      rw [accounted.completed, List.length_map, accounted.iterations]
    simpa [RunState.snapshot, Manifest.stepIds_shape, Function.comp_def, stepState, length]
      using counted
  case active =>
    intro step member
    have standing := (state.status_stepState step.id).1
    rwa [shown member] at standing
  case completed =>
    intro step member
    have standing := (state.status_stepState step.id).2.1
    rwa [shown member, ran] at standing
  case pending =>
    intro step member
    have standing := (state.status_stepState step.id).2.2
    rw [shown member, ran] at standing
    simp only [not_exists, not_and] at standing
    exact standing
  case logLength => rfl
  case log =>
    refine ⟨state.log.take (state.log.length - Snapshot.logTail),
      (List.take_append_drop _ _).symm, ?_⟩
    simp only [RunState.snapshot, List.length_drop, Snapshot.logTail]
    omega

end RunState

/-- The log of a run leads to the state of every stage, and to the state that its turn leaves. -/
theorem Stage.OfRun.accounted {stage : Stage} {manifest : Manifest} {group : String}
    {Given : ExecutorResult → Prop} (ofRun : stage.OfRun manifest group Given) :
    ∃ first, stage.run.Accounted manifest first ∧ stage.turned.run.Accounted manifest first := by
  obtain rfl := ofRun.manifest_eq
  obtain ⟨first, begins⟩ := ofRun.begins
  have here : stage.run.Accounted stage.manifest first := by
    refine ofRun.invariant (P := fun state => state.Accounted stage.manifest first) ?_
      (maintains_accounted stage.manifest first)
    intro runId entry again
    cases begins.entry.symm.trans again.entry
    exact RunState.accounted_startingAt
  exact ⟨first, here, maintains_turned (maintains_accounted stage.manifest first) here⟩

/-- Every snapshot of a run accounts for all executions up to it: what is shown of any stage, and
what the turn at that stage publishes, however the run has been resumed on the way. -/
theorem snapshots_account_for_runs {stage : Stage} {manifest : Manifest} {group : String}
    (ofRun : stage.OfRun manifest group fun _ => True) :
    (∀ status, (stage.engine.snapshot stage.session status).AccountsFor manifest stage.run) ∧
    ∃ shown, stage.turned.session.published = stage.session.published ++ shown ∧
      ∀ snapshot ∈ shown, snapshot.AccountsFor manifest stage.turned.run := by
  obtain ⟨first, before, after⟩ := ofRun.accounted
  have same : stage.engine.manifest = manifest := ofRun.manifest_eq
  constructor
  · intro status
    rw [Engine.snapshot, same]
    exact before.snapshot status
  · obtain ⟨shown, published, taken⟩ := stage.turned_published
    refine ⟨shown, published, fun snapshot member => ?_⟩
    obtain ⟨status, rfl⟩ := taken snapshot member
    rw [show stage.manifest = manifest from same]
    exact after.snapshot status

/-- The roundabout after so many turns. -/
def roundaboutAfter : Nat → Stage
  | 0 => ⟨roundaboutEngine, roundaboutSession.restarted (.startingAt "run-1" ⟨"Main", "A"⟩)⟩
  | count + 1 => (roundaboutAfter count).turned

private theorem roundaboutAfter_ofRun {count : Nat}
    (goes : ∀ before < count, (roundaboutAfter before).Goes) :
    (roundaboutAfter count).OfRun roundabout "Main" fun _ => True := by
  induction count with
  | zero => exact .start rfl ⟨by decide, by decide⟩
  | succ count ih =>
    have before := ih fun earlier less => goes earlier (Nat.lt_succ_of_lt less)
    exact .next before (fun _ _ => trivial) (goes count (Nat.lt_succ_self count)).follows

/-- Once round, every step has run, and the first one is next again. -/
theorem roundabout_is_counted :
    (roundaboutAfter 2).OfRun roundabout "Main" (fun _ => True) ∧
      ∃ snapshot, (roundaboutAfter 3).session.published.getLast? = some snapshot ∧
        snapshot.AccountsFor roundabout (roundaboutAfter 3).run ∧
        snapshot.steps = [⟨⟨"Main", "A"⟩, .active, 1⟩, ⟨⟨"Main", "B"⟩, .completed, 1⟩,
          ⟨⟨"Sub", "A"⟩, .completed, 1⟩] := by
  have ofRun : (roundaboutAfter 2).OfRun roundabout "Main" fun _ => True :=
    roundaboutAfter_ofRun (by decide)
  obtain ⟨-, shown, published, accounts⟩ := snapshots_account_for_runs ofRun
  have grown : (roundaboutAfter 3).session.published.length =
      (roundaboutAfter 2).session.published.length + 1 := by decide
  have once : shown.length = 1 := by
    have length := congrArg List.length published
    rw [List.length_append] at length
    exact Nat.add_left_cancel (length.symm.trans grown)
  obtain ⟨snapshot, rfl⟩ := List.length_eq_one_iff.mp once
  have last : (roundaboutAfter 3).session.published.getLast? = some snapshot := by
    rw [show (roundaboutAfter 3).session.published = _ from published, List.getLast?_concat]
  have steps : (roundaboutAfter 3).session.published.getLast?.map Snapshot.steps =
      some [⟨⟨"Main", "A"⟩, .active, 1⟩, ⟨⟨"Main", "B"⟩, .completed, 1⟩,
        ⟨⟨"Sub", "A"⟩, .completed, 1⟩] := by decide
  rw [last] at steps
  exact ⟨ofRun, snapshot, last, accounts snapshot (List.mem_singleton_self snapshot),
    Option.some.inj steps⟩

end StepGraph
