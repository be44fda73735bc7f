/-! Maps from names to values that remember an order. An `OrderedMap` keeps the
order in which names were first declared; a `SortedMap` keeps its names in
increasing order of their characters. In both a name stands at most once, and
declaring it again replaces its value where it stands. -/
namespace StepGraph

/-- Names with values, in the order of first declaration. -/
structure OrderedMap (α : Type) where
  entries : List (String × α)
  /-- No name is declared twice. -/
  nodup_keys : (entries.map Prod.fst).Nodup
  deriving DecidableEq

namespace OrderedMap

variable {α : Type}

/-- Sets a name's value where the name stands, or at the end if it is new. -/
def insertEntry (key : String) (value : α) : List (String × α) → List (String × α)
  | [] => [(key, value)]
  | entry :: rest =>
    if entry.1 = key then (key, value) :: rest else entry :: insertEntry key value rest

theorem mem_keys_insertEntry {key name : String} {value : α} {entries : List (String × α)} :
    name ∈ (insertEntry key value entries).map Prod.fst ↔
      name = key ∨ name ∈ entries.map Prod.fst := by
  induction entries with
  | nil => simp [insertEntry]
  | cons entry rest ih =>
    rw [insertEntry]
    split
    · rename_i same
      simp [same]
    · simp only [List.map_cons, List.mem_cons, ih]
      constructor
      · rintro (h | h | h) <;> simp [h]
      · rintro (h | h | h) <;> simp [h]

theorem nodup_insertEntry {key : String} {value : α} {entries : List (String × α)}
    (nodup : (entries.map Prod.fst).Nodup) :
    ((insertEntry key value entries).map Prod.fst).Nodup := by
  induction entries with
  | nil => simp [insertEntry]
  | cons entry rest ih =>
    rw [List.map_cons, List.nodup_cons] at nodup
    rw [insertEntry]
    split
    · rename_i same
      subst same
      exact List.nodup_cons.mpr nodup
    · rename_i differs
      refine List.nodup_cons.mpr ⟨?_, ih nodup.2⟩
      rw [mem_keys_insertEntry]
      rintro (same | member)
      · exact differs same
      · exact nodup.1 member

/-- The map without names. -/
def empty : OrderedMap α := ⟨[], List.nodup_nil⟩

instance : Inhabited (OrderedMap α) := ⟨empty⟩
instance : EmptyCollection (OrderedMap α) := ⟨empty⟩

/-- Sets a name's value where the name stands, or at the end if it is new. -/
def insert (map : OrderedMap α) (key : String) (value : α) : OrderedMap α :=
  ⟨insertEntry key value map.entries, nodup_insertEntry map.nodup_keys⟩

/-- Declares each pair in turn: a name keeps its first place and its last value. -/
def ofList (entries : List (String × α)) : OrderedMap α :=
  entries.foldl (fun map entry => map.insert entry.1 entry.2) empty

/-- The names in order. -/
def keys (map : OrderedMap α) : List String := map.entries.map Prod.fst

/-- The value of a name. -/
def get? (map : OrderedMap α) (key : String) : Option α :=
  (map.entries.find? (·.1 = key)).map Prod.snd

/-- Whether a name is declared. -/
def contains (map : OrderedMap α) (key : String) : Bool := (map.get? key).isSome

/-- Whether no name is declared. -/
def isEmpty (map : OrderedMap α) : Bool := map.entries.isEmpty

end OrderedMap

/-- Names with values, in increasing order of the names. -/
structure SortedMap (α : Type) where
  entries : List (String × α)
  /-- Each name comes before the names that follow it. -/
  sorted_keys : (entries.map Prod.fst).Pairwise (· < ·)
  deriving DecidableEq

namespace SortedMap

variable {α : Type}

/-- Sets a name's value where the name stands or belongs. -/
def insertEntry (key : String) (value : α) : List (String × α) → List (String × α)
  | [] => [(key, value)]
  | entry :: rest =>
    if key < entry.1 then (key, value) :: entry :: rest
    else if entry.1 < key then entry :: insertEntry key value rest
    else (key, value) :: rest

theorem mem_keys_of_insertEntry {key name : String} {value : α} {entries : List (String × α)}
    (member : name ∈ (insertEntry key value entries).map Prod.fst) :
    name = key ∨ name ∈ entries.map Prod.fst := by
  induction entries with
  | nil => simpa [insertEntry] using member
  | cons entry rest ih =>
    rw [insertEntry] at member
    split at member
    · simpa using member
    · split at member
      · rw [List.map_cons, List.mem_cons] at member
        rcases member with same | later
        · simp [same]
        · rcases ih later with h | h <;> simp [h]
      · rw [List.map_cons, List.mem_cons] at member
        rcases member with same | later
        · exact Or.inl same
        · exact Or.inr (by simp [later])

theorem sorted_insertEntry {key : String} {value : α} {entries : List (String × α)}
    (sorted : (entries.map Prod.fst).Pairwise (· < ·)) :
    ((insertEntry key value entries).map Prod.fst).Pairwise (· < ·) := by
  induction entries with
  | nil => simp [insertEntry]
  | cons entry rest ih =>
    rw [List.map_cons, List.pairwise_cons] at sorted
    rw [insertEntry]
    split
    · rename_i before
      simp only [List.map_cons, List.pairwise_cons, List.mem_cons]
      refine ⟨?_, sorted⟩
      rintro name (rfl | later)
      · exact before
      · exact String.lt_trans before (sorted.1 name later)
    · rename_i notBefore
      split
      · rename_i after
        rw [List.map_cons, List.pairwise_cons]
        refine ⟨fun name member => ?_, ih sorted.2⟩
        rcases mem_keys_of_insertEntry member with rfl | later
        · exact after
        · exact sorted.1 name later
      · rename_i notAfter
        have same : key = entry.1 :=
          String.le_antisymm (String.not_lt.mp notAfter) (String.not_lt.mp notBefore)
        subst same
        exact List.pairwise_cons.mpr sorted

/-- The map without names. -/
def empty : SortedMap α := ⟨[], List.Pairwise.nil⟩

instance : Inhabited (SortedMap α) := ⟨empty⟩
instance : EmptyCollection (SortedMap α) := ⟨empty⟩

/-- Sets a name's value where the name stands or belongs. -/
def insert (map : SortedMap α) (key : String) (value : α) : SortedMap α :=
  ⟨insertEntry key value map.entries, sorted_insertEntry map.sorted_keys⟩

/-- Declares each pair in turn: of two values for a name the later one stays. -/
def ofList (entries : List (String × α)) : SortedMap α :=
  entries.foldl (fun map entry => map.insert entry.1 entry.2) empty

/-- The names in order. -/
def keys (map : SortedMap α) : List String := map.entries.map Prod.fst

/-- The value of a name. -/
def get? (map : SortedMap α) (key : String) : Option α :=
  (map.entries.find? (·.1 = key)).map Prod.snd

/-- Whether a name is declared. -/
def contains (map : SortedMap α) (key : String) : Bool := (map.get? key).isSome

end SortedMap
end StepGraph
