import StepGraph.Proofs.Context

/-! Which groups lend a step their static context. The walk through the callers leaves out
groups that it has met, and ends at the first that does not inherit. Every group that it has met
inherits, so leaving those out first is the same as ending first: the chain is the beginning of
the callers that inherits, with each group where it is nearest. -/
namespace StepGraph

/-- The groups of the callers, the innermost call first. -/
def CallStack.callers (stack : CallStack) : List String :=
  stack.reverse.map fun frame => frame.caller.group

namespace Manifest

/-- The group is declared, and the context of its callers reaches it. -/
def Inherits (manifest : Manifest) (name : String) : Prop :=
  ∃ group, manifest.group name = .ok group ∧ group.inherits = true

instance (manifest : Manifest) : DecidablePred manifest.Inherits := fun name =>
  inferInstanceAs (Decidable (∃ group, manifest.group name = .ok group ∧ group.inherits = true))

/-- A walk through these groups comes to the group: all in front of it inherit. -/
inductive Reaches (manifest : Manifest) : List String → String → Prop where
  | here {name : String} {outer : List String} : Reaches manifest (name :: outer) name
  | beyond {name nearer : String} {outer : List String} (inherits : manifest.Inherits nearer)
      (reaches : Reaches manifest outer name) : Reaches manifest (nearer :: outer) name

/-- The group of a step and, if that inherits, those of the callers up to the first that does
not inherit. -/
def lineage (manifest : Manifest) (current : StepId) (stack : CallStack) : List String :=
  current.group ::
    if manifest.Inherits current.group then stack.callers.takeWhile (manifest.Inherits ·) else []

/-- The static context that a group contributes. -/
def contribution (manifest : Manifest) (name : String) : Payload :=
  match manifest.group name with
  | .ok group => group.staticLayer name
  | .error _ => []

variable {manifest : Manifest} {name nearer : String} {outer chain extended : List String}
  {frame : Frame} {frames : List Frame} {error : RunError} {current : StepId} {stack : CallStack}

private theorem Inherits.hasGroup (inherits : manifest.Inherits name) : manifest.HasGroup name :=
  inherits.imp fun _ found => group_eq_ok.mp found.1

private theorem group_eq_error_iff_not_hasGroup :
    manifest.group name = .error error ↔ error = .unknownGroup name ∧ ¬ manifest.HasGroup name := by
  rw [group_eq_error, and_comm, HasGroup, Option.eq_none_iff_forall_ne_some, not_exists]

private theorem reaches_cons : manifest.Reaches (nearer :: outer) name ↔
    name = nearer ∨ manifest.Inherits nearer ∧ manifest.Reaches outer name := by
  constructor
  · intro reaches
    cases reaches with
    | here => exact Or.inl rfl
    | beyond inherits reaches => exact Or.inr ⟨inherits, reaches⟩
  · rintro (rfl | ⟨inherits, reaches⟩)
    · exact .here
    · exact .beyond inherits reaches

/-- A group that inherits is declared, so what is undeclared is behind it. -/
theorem undeclared_reaches_cons (inherits : manifest.Inherits nearer) :
    ¬ manifest.HasGroup name ∧ manifest.Reaches (nearer :: outer) name ↔
      ¬ manifest.HasGroup name ∧ manifest.Reaches outer name := by
  refine and_congr_right fun missing => ?_
  rw [reaches_cons, or_iff_right, and_iff_right inherits]
  rintro rfl
  exact missing inherits.hasGroup

/-- Behind a group that does not inherit, nothing is reached. -/
theorem group_eq_error_iff_reaches (cut : ¬ manifest.Inherits nearer) :
    manifest.group nearer = .error error ↔
      ∃ name, error = .unknownGroup name ∧ ¬ manifest.HasGroup name ∧
        manifest.Reaches (nearer :: outer) name := by
  simp [group_eq_error_iff_not_hasGroup, reaches_cons, cut]

/-- A group that has been met is left out. -/
theorem ascend_of_mem (met : frame.caller.group ∈ chain) :
    manifest.ascend chain (frame :: frames) = manifest.ascend chain frames := by
  simp [ascend, met]

/-- A new group that inherits goes behind the others. -/
theorem ascend_of_inherits (new : frame.caller.group ∉ chain)
    (inherits : manifest.Inherits frame.caller.group) :
    manifest.ascend chain (frame :: frames) =
      manifest.ascend (chain ++ [frame.caller.group]) frames := by
  obtain ⟨group, found, inherits⟩ := inherits
  simp [ascend, new, found, inherits]

/-- At a group that does not inherit the walk ends, whatever is behind it. -/
theorem ascend_of_not_inherits (known : ∀ name ∈ chain, manifest.Inherits name)
    (cut : ¬ manifest.Inherits frame.caller.group) :
    manifest.ascend chain (frame :: frames) =
      (manifest.group frame.caller.group).map fun _ => chain := by
  have new : frame.caller.group ∉ chain := fun met => cut (known _ met)
  cases found : manifest.group frame.caller.group with
  | error error => simp [ascend, new, found, Except.map]
  | ok group =>
    have alone : group.inherits = false := by
      rw [← Bool.not_eq_true]
      exact fun inherits => cut ⟨group, found, inherits⟩
    simp [ascend, new, found, alone, Except.map]

private theorem inherits_concat (known : ∀ name ∈ chain, manifest.Inherits name)
    (inherits : manifest.Inherits name) : ∀ other ∈ chain ++ [name], manifest.Inherits other := by
  intro other member
  rcases List.mem_append.mp member with met | added
  · exact known other met
  · exact List.mem_singleton.mp added ▸ inherits

private theorem eraseDups_of_nodup (nodup : chain.Nodup) : chain.eraseDups = chain := by
  induction chain with
  | nil => rfl
  | cons name rest ih =>
    obtain ⟨absent, nodup⟩ := List.nodup_cons.mp nodup
    have others : rest.filter (fun other => !other == name) = rest := by
      refine List.filter_eq_self.mpr fun other member => ?_
      simpa using fun same : other = name => absent (same ▸ member)
    rw [List.eraseDups_cons, others, ih nodup]

/-- Behind a list that has a name, the name adds nothing. -/
theorem eraseDups_append_cons_of_mem (met : name ∈ chain) :
    (chain ++ name :: outer).eraseDups = (chain ++ outer).eraseDups := by
  simp [List.eraseDups_append, List.removeAll, met]

/-- A walk that is not in the way of anything undeclared finds the groups up to the first that
does not inherit, each where it is met first. -/
theorem eq_of_ascend (known : ∀ name ∈ chain, manifest.Inherits name) (nodup : chain.Nodup)
    (ascended : manifest.ascend chain frames = .ok extended) :
    extended = (chain ++ (frames.map (·.caller.group)).takeWhile (manifest.Inherits ·)).eraseDups ∧
      extended.Nodup := by
  induction frames generalizing chain with
  | nil =>
    cases ascended
    rw [List.map_nil, List.takeWhile_nil, List.append_nil]
    exact ⟨(eraseDups_of_nodup nodup).symm, nodup⟩
  | cons frame outer ih =>
    rw [List.map_cons, List.takeWhile_cons]
    by_cases met : frame.caller.group ∈ chain
    · rw [ascend_of_mem met] at ascended
      rw [if_pos (decide_eq_true (known _ met)), eraseDups_append_cons_of_mem met]
      exact ih known nodup ascended
    by_cases inherits : manifest.Inherits frame.caller.group
    · rw [ascend_of_inherits met inherits] at ascended
      rw [if_pos (decide_eq_true inherits), List.append_cons]
      refine ih (inherits_concat known inherits) ?_ ascended
      exact List.nodup_append.mpr ⟨nodup, by simp, by simpa using List.forall_mem_ne'.mpr met⟩
    · rw [ascend_of_not_inherits known inherits] at ascended
      obtain ⟨_, _, rfl⟩ := map_eq_ok.mp ascended
      rw [if_neg (by simpa using inherits), List.append_nil]
      exact ⟨(eraseDups_of_nodup nodup).symm, nodup⟩

/-- A walk fails at the undeclared group that it comes to. -/
theorem ascend_eq_error_iff (known : ∀ name ∈ chain, manifest.Inherits name) :
    manifest.ascend chain frames = .error error ↔
      ∃ name, error = .unknownGroup name ∧ ¬ manifest.HasGroup name ∧
        manifest.Reaches (frames.map (·.caller.group)) name := by
  induction frames generalizing chain with
  | nil =>
    refine ⟨nofun, ?_⟩
    rintro ⟨name, -, -, impossible⟩
    cases impossible
  | cons frame outer ih =>
    by_cases inherits : manifest.Inherits frame.caller.group
    · simp only [List.map_cons, undeclared_reaches_cons inherits]
      by_cases met : frame.caller.group ∈ chain
      · rw [ascend_of_mem met]
        exact ih known
      · rw [ascend_of_inherits met inherits]
        exact ih (inherits_concat known inherits)
    · rw [ascend_of_not_inherits known inherits, map_eq_error]
      exact group_eq_error_iff_reaches inherits

/-- What is further out than a group that does not inherit is without influence. -/
theorem ascend_append_cut (known : ∀ name ∈ chain, manifest.Inherits name)
    (cut : ¬ manifest.Inherits frame.caller.group) (nearer further others : List Frame) :
    manifest.ascend chain (nearer ++ frame :: further) =
      manifest.ascend chain (nearer ++ frame :: others) := by
  induction nearer generalizing chain with
  | nil =>
    rw [List.nil_append, List.nil_append, ascend_of_not_inherits known cut,
      ascend_of_not_inherits known cut]
  | cons near rest ih =>
    rw [List.cons_append, List.cons_append]
    by_cases met : near.caller.group ∈ chain
    · rw [ascend_of_mem met, ascend_of_mem met, ih known]
    by_cases inherits : manifest.Inherits near.caller.group
    · rw [ascend_of_inherits met inherits, ascend_of_inherits met inherits,
        ih (inherits_concat known inherits)]
    · rw [ascend_of_not_inherits known inherits, ascend_of_not_inherits known inherits]

/-- A step whose group is not declared has no chain, one whose group does not inherit has no
group but its own, and for all others the callers are walked through. -/
theorem inheritanceChain_eq : manifest.inheritanceChain current stack =
    if manifest.Inherits current.group then manifest.ascend [current.group] stack.reverse
    else (manifest.group current.group).map fun _ => [current.group] := by
  unfold inheritanceChain
  cases found : manifest.group current.group with
  | error error => simp [Inherits, found, bind, Except.bind, Except.map]
  | ok group => simp [Inherits, found, bind, Except.bind, Except.map]

private theorem inherits_singleton (inherits : manifest.Inherits name) :
    ∀ other ∈ [name], manifest.Inherits other := by
  simpa using inherits

private theorem eq_of_inheritanceChain
    (chained : manifest.inheritanceChain current stack = .ok chain) :
    chain = (manifest.lineage current stack).eraseDups ∧ chain.Nodup := by
  rw [inheritanceChain_eq] at chained
  unfold lineage
  split at chained
  · rename_i inherits
    rw [if_pos inherits]
    exact eq_of_ascend (inherits_singleton inherits) (by simp) chained
  · rename_i alone
    obtain ⟨_, _, rfl⟩ := map_eq_ok.mp chained
    rw [if_neg alone]
    exact ⟨rfl, by simp⟩

private theorem inheritanceChain_eq_error_iff :
    manifest.inheritanceChain current stack = .error error ↔
      ∃ name, error = .unknownGroup name ∧ ¬ manifest.HasGroup name ∧
        manifest.Reaches (current.group :: stack.callers) name := by
  rw [inheritanceChain_eq]
  split
  · rename_i inherits
    simp only [undeclared_reaches_cons inherits]
    exact ascend_eq_error_iff (inherits_singleton inherits)
  · rename_i alone
    rw [map_eq_error]
    exact group_eq_error_iff_reaches alone

private theorem inherits_of_mem_lineage (member : name ∈ (manifest.lineage current stack).tail) :
    manifest.Inherits name := by
  unfold lineage at member
  rw [List.tail_cons] at member
  split at member
  · have inherits := List.all_eq_true.mp List.all_takeWhile name member
    exact of_decide_eq_true inherits
  · cases member

/-- Behind the group of the step, the chain consists of groups that inherit. -/
theorem exists_chain_eq_cons (chained : manifest.inheritanceChain current stack = .ok chain) :
    ∃ rest, chain = current.group :: rest ∧ ∀ name ∈ rest, manifest.Inherits name := by
  obtain ⟨rfl, -⟩ := eq_of_inheritanceChain chained
  refine ⟨_, List.eraseDups_cons, fun name member => ?_⟩
  have among := (List.mem_filter.mp (List.mem_eraseDups.mp member)).1
  exact inherits_of_mem_lineage among

private theorem hasGroup_of_inheritanceChain
    (chained : manifest.inheritanceChain current stack = .ok chain) :
    ∀ name ∈ chain, manifest.HasGroup name := by
  obtain ⟨rest, rfl, inherits⟩ := exists_chain_eq_cons chained
  intro name member
  rcases List.mem_cons.mp member with rfl | behind
  · obtain ⟨group, found, -⟩ := bind_eq_ok.mp chained
    exact ⟨group, group_eq_ok.mp found⟩
  · exact (inherits name behind).hasGroup

/-- The groups of a chain contribute in its order. -/
theorem staticLayer_eq (has : ∀ name ∈ chain, manifest.HasGroup name) :
    manifest.staticLayer chain = .ok (chain.flatMap manifest.contribution) := by
  induction chain with
  | nil => rfl
  | cons name rest ih =>
    obtain ⟨group, found⟩ := group_of_hasGroup (has name List.mem_cons_self)
    have others := ih fun other member => has other (List.mem_cons_of_mem _ member)
    simp [staticLayer, contribution, found, others, bind, Except.bind, pure, Except.pure]

/-- What is further out than a caller that does not inherit is without influence. -/
theorem inheritanceChain_append_cut (cut : ¬ manifest.Inherits frame.caller.group)
    (further others inner : CallStack) :
    manifest.inheritanceChain current (further ++ frame :: inner) =
      manifest.inheritanceChain current (others ++ frame :: inner) := by
  rw [inheritanceChain_eq, inheritanceChain_eq]
  split
  · rename_i inherits
    simp only [List.reverse_append, List.reverse_cons, List.append_assoc, List.singleton_append]
    exact ascend_append_cut (inherits_singleton inherits) cut _ _ _
  · rfl

/-- A call from the group of the step itself adds nothing. -/
theorem inheritanceChain_concat (recursive : frame.caller.group = current.group) :
    manifest.inheritanceChain current (stack ++ [frame]) =
      manifest.inheritanceChain current stack := by
  have met : frame.caller.group ∈ [current.group] := List.mem_singleton.mpr recursive
  rw [inheritanceChain_eq, inheritanceChain_eq, List.reverse_concat, ascend_of_mem met]

/-- How static context is inherited. The chain of a step is its own group and, if that inherits,
the groups of the callers from the innermost call outwards up to the first that does not inherit,
each at its nearest place. So it names no group twice, a group that does not inherit contributes to
its own steps alone, what is further out than the first such caller is without influence, and
recursive calls change nothing. A chain is missing exactly if an undeclared group is come to. -/
theorem static_context_is_inherited (manifest : Manifest) (current : StepId) (stack : CallStack) :
    (∀ chain, manifest.inheritanceChain current stack = .ok chain →
      chain = (manifest.lineage current stack).eraseDups ∧ chain.Nodup ∧
        (∃ rest, chain = current.group :: rest ∧ ∀ name ∈ rest, manifest.Inherits name) ∧
        (∀ name ∈ chain, ¬ manifest.Inherits name → name = current.group) ∧
        manifest.staticLayer chain = .ok (chain.flatMap manifest.contribution)) ∧
      (∀ error, manifest.inheritanceChain current stack = .error error ↔
        ∃ name, error = .unknownGroup name ∧ ¬ manifest.HasGroup name ∧
          manifest.Reaches (current.group :: stack.callers) name) ∧
      (∀ further cut inner, stack = further ++ cut :: inner →
        ¬ manifest.Inherits cut.caller.group → ∀ others : CallStack,
          manifest.inheritanceChain current (others ++ cut :: inner) =
            manifest.inheritanceChain current stack) ∧
      ∀ frame : Frame, frame.caller.group = current.group →
        manifest.inheritanceChain current (stack ++ [frame]) =
          manifest.inheritanceChain current stack := by
  refine ⟨fun chain chained => ?_, fun _ => inheritanceChain_eq_error_iff, ?_,
    fun _ recursive => inheritanceChain_concat recursive⟩
  · obtain ⟨same, nodup⟩ := eq_of_inheritanceChain chained
    obtain ⟨rest, begins, inherits⟩ := exists_chain_eq_cons chained
    refine ⟨same, nodup, ⟨rest, begins, inherits⟩, fun name member alone => ?_,
      staticLayer_eq (hasGroup_of_inheritanceChain chained)⟩
    rw [begins] at member
    rcases List.mem_cons.mp member with here | behind
    · exact here
    · exact absurd (inherits name behind) alone
  · rintro further cut inner rfl alone others
    exact inheritanceChain_append_cut alone others further inner

/-- Four groups with a convention each, of which only `Wall` does not inherit. -/
def walled : Manifest :=
  ⟨SortedMap.ofList (["Far", "Loop", "Top", "Wall"].map fun name =>
    (name, ⟨"A", name ≠ "Wall", OrderedMap.ofList [("style", name)], ∅⟩))⟩

/-- Calls from the steps `A` of these groups, the outermost first. -/
def callsFrom (groups : List String) : CallStack := groups.map fun name => ⟨⟨name, "A"⟩, none⟩

/-- `Loop` and `Top` call each other behind a wall. -/
theorem walls_keep_context_out :
    walled.inheritanceChain ⟨"Loop", "A"⟩ (callsFrom ["Far", "Wall", "Top", "Loop", "Top"]) =
        .ok ["Loop", "Top"] ∧
      walled.staticLayer ["Loop", "Top"] =
        .ok [⟨"static:Loop:style", Kind.staticContext, "Loop"⟩,
          ⟨"static:Top:style", Kind.staticContext, "Top"⟩] ∧
      walled.inheritanceChain ⟨"Loop", "A"⟩
        (callsFrom ["Ghost", "Far"] ++ callsFrom ["Wall", "Top", "Loop", "Top"]) =
          .ok ["Loop", "Top"] ∧
      walled.inheritanceChain ⟨"Loop", "A"⟩
        (callsFrom ["Far", "Wall", "Top", "Loop", "Top"] ++ callsFrom ["Loop"]) =
          .ok ["Loop", "Top"] := by
  obtain ⟨made, -, cut, recursive⟩ := static_context_is_inherited walled ⟨"Loop", "A"⟩
    (callsFrom ["Far", "Wall", "Top", "Loop", "Top"])
  have chained : walled.inheritanceChain ⟨"Loop", "A"⟩
      (callsFrom ["Far", "Wall", "Top", "Loop", "Top"]) = .ok ["Loop", "Top"] := by decide
  obtain ⟨-, -, -, -, layer⟩ := made _ chained
  refine ⟨chained, layer.trans (by decide), ?_, ?_⟩
  · exact (cut (callsFrom ["Far"]) _ _ rfl (by decide) (callsFrom ["Ghost", "Far"])).trans chained
  · exact (recursive _ (by decide)).trans chained

end Manifest
end StepGraph
