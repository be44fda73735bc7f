import StepGraph.Toml.Tree

/-! Tables in the tree of a document. A path reaches a table when whatever is done at its end is
done to the entries of that table, the rest of the tree closed around them again; a table that is
not there yet is reached as an empty one. A header that names a new table below it therefore adds
that table behind the entries that are there, and nothing else changes. -/
namespace StepGraph.Toml

open Builder.begin? (inside?)

variable {root entries : Entries} {path : List String} {origin : Origin}
  {close : Entries → Entries} {name : String} {node : Node} {builder : Builder}

theorem lookup_eq_none : lookup entries name = none ↔ name ∉ entries.map Prod.fst := by
  simp only [lookup, Option.map_eq_none_iff, List.find?_eq_none, decide_eq_true_eq, List.mem_map,
    not_exists, not_and]

private theorem lookup_append_self (new : lookup entries name = none) :
    lookup (entries ++ [(name, node)]) name = some node := by
  have absent : entries.find? (·.1 = name) = none := Option.map_eq_none_iff.mp new
  simp [lookup, List.find?_append, absent]

private theorem assign_append_self {other : Node} (new : lookup entries name = none) :
    assign name other (entries ++ [(name, node)]) = entries ++ [(name, other)] := by
  rw [lookup_eq_none] at new
  induction entries with
  | nil => simp [assign]
  | cons entry entries ih =>
    rw [List.map_cons, List.mem_cons, not_or] at new
    rw [List.cons_append, assign, if_neg (Ne.symm new.1), ih new.2, List.cons_append]

/-- A path leads to a table with these entries, and `close` is the tree around it. -/
structure Reaches (root : Entries) (path : List String) (origin : Origin) (entries : Entries)
    (close : Entries → Entries) : Prop where
  update : ∀ change rest, updateAt? false change (path ++ rest) .header root =
    (updateAt? false change rest origin entries).map close
  inside : ∀ header rest, inside? header (path ++ rest) root = inside? header rest entries

/-- The path leads there whatever has been put there. -/
def Keeps (path : List String) (origin : Origin) (close : Entries → Entries) : Prop :=
  ∀ entries, Reaches (close entries) path origin entries close

theorem keeps_root : Keeps [] .header id :=
  fun _ => ⟨fun _ _ => by simp, fun _ _ => rfl⟩

/-- The tree around a table that stands behind the entries of another one. -/
def around (close : Entries → Entries) (entries : Entries) (name : String) (origin : Origin)
    (inner : Entries) : Entries :=
  close (entries ++ [(name, .table origin inner)])

/-- A table that is not there is reached as an empty one. -/
theorem Reaches.missing (reaches : Reaches root path origin entries close)
    (new : lookup entries name = none) :
    Reaches root (path ++ [name]) .path [] (around close entries name .path) where
  update change rest := by
    rw [List.append_assoc, List.singleton_append, reaches.update, updateAt?, new, Option.map_map]
    rfl
  inside header rest := by
    have nothing : inside? header rest [] = none := by cases rest <;> rfl
    rw [List.append_assoc, List.singleton_append, reaches.inside, inside?, new, nothing]

/-- A table that has been put behind the others is reached there. -/
theorem Keeps.child (keeps : Keeps path origin close) (new : lookup entries name = none)
    (kind : Origin) : Keeps (path ++ [name]) kind (around close entries name kind) := by
  intro inner
  have reaches := keeps (entries ++ [(name, .table kind inner)])
  have found : lookup (entries ++ [(name, .table kind inner)]) name = some (.table kind inner) :=
    lookup_append_self new
  refine ⟨fun change rest => ?_, fun header rest => ?_⟩
  · rw [List.append_assoc, List.singleton_append]
    refine (reaches.update change (name :: rest)).trans ?_
    simp only [updateAt?, found, Bool.false_and, Bool.false_eq_true, ↓reduceIte, Option.map_map]
    congr 1
    funext updated
    simp only [Function.comp_apply, assign_append_self new]
    rfl
  · rw [List.append_assoc, List.singleton_append]
    refine (reaches.inside header (name :: rest)).trans ?_
    simp only [inside?, found]

/-- A header of a new table begins it without entries. -/
theorem begin?_of_reaches (finished : builder.finish? = some root)
    (reaches : Reaches root path origin entries close) (new : lookup entries name = none) :
    builder.begin? ⟨path, name, false⟩ =
      some ⟨close entries, some ⟨path, name, false⟩, []⟩ := by
  have update := fun change => reaches.update change []
  have inside := reaches.inside ⟨path, name, false⟩ []
  simp only [List.append_nil, updateAt?, inside?, new] at update inside
  simp [Builder.begin?, finished, update, inside, new]

/-- A table that is finished stands behind the others, under its header. -/
theorem finish?_of_keeps (current : Entries) (keeps : Keeps path origin close)
    (new : lookup entries name = none) :
    (⟨close entries, some ⟨path, name, false⟩, current⟩ : Builder).finish? =
      some (around close entries name .header current) := by
  have update := fun change => (keeps entries).update change []
  simp only [List.append_nil, updateAt?] at update
  simp [Builder.finish?, update, new, around]

/-- A value under a new key stands behind the others. -/
theorem insert?_of_new {data : Data} (new : lookup builder.current name = none) :
    builder.insert? [] name data =
      some { builder with current := builder.current ++ [(name, .value data)] } := by
  simp [Builder.insert?, insertValue?, updateAt?, new]

end StepGraph.Toml
