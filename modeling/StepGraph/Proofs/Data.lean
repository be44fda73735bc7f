import StepGraph.Manifest

/-! What is written as data is read from it. A record that leaves fields out has the fields that
it was given, a map comes back with its names in their order, and a variant comes back under its
tag. Each format that keeps data unchanged therefore keeps what the data was made of. -/
namespace StepGraph

variable {α β γ : Type}

namespace OrderedMap

private theorem insertEntry_of_new {key : String} {value : α} {entries : List (String × α)}
    (new : key ∉ entries.map Prod.fst) :
    insertEntry key value entries = entries ++ [(key, value)] := by
  induction entries with
  | nil => rfl
  | cons entry rest ih =>
    rw [List.map_cons, List.mem_cons, not_or] at new
    rw [insertEntry, if_neg (Ne.symm new.1), ih new.2, List.cons_append]

/-- Entries with names of their own are declared behind those that are there. -/
theorem entries_foldl_insert {done : OrderedMap α} {rest : List (String × α)}
    (nodup : ((done.entries ++ rest).map Prod.fst).Nodup) :
    (rest.foldl (fun map entry => map.insert entry.1 entry.2) done).entries =
      done.entries ++ rest := by
  induction rest generalizing done with
  | nil => simp
  | cons entry rest ih =>
    have new : entry.1 ∉ done.entries.map Prod.fst := by
      intro declared
      rw [List.map_append, List.nodup_append] at nodup
      exact nodup.2.2 _ declared _ List.mem_cons_self rfl
    have inserted : (done.insert entry.1 entry.2).entries = done.entries ++ [entry] :=
      insertEntry_of_new new
    rw [List.foldl_cons, ih (by simpa [inserted] using nodup), inserted, List.append_assoc,
      List.singleton_append]

/-- A map is declared again by its entries. -/
theorem ofList_entries (map : OrderedMap α) : ofList map.entries = map := by
  have same : (ofList map.entries).entries = (empty : OrderedMap α).entries ++ map.entries :=
    entries_foldl_insert map.nodup_keys
  cases map
  cases declared : ofList _
  rw [declared] at same
  cases same
  rfl

end OrderedMap

namespace SortedMap

private theorem insertEntry_of_last {key : String} {value : α} {entries : List (String × α)}
    (last : ∀ name ∈ entries.map Prod.fst, name < key) :
    insertEntry key value entries = entries ++ [(key, value)] := by
  induction entries with
  | nil => rfl
  | cons entry rest ih =>
    have before : entry.1 < key := last _ List.mem_cons_self
    have later := ih fun name member => last name (List.mem_cons_of_mem _ member)
    rw [insertEntry, if_neg (String.lt_asymm before), if_pos before, later, List.cons_append]

/-- Entries in increasing order are declared behind those that come before them. -/
theorem entries_foldl_insert {done : SortedMap α} {rest : List (String × α)}
    (sorted : ((done.entries ++ rest).map Prod.fst).Pairwise (· < ·)) :
    (rest.foldl (fun map entry => map.insert entry.1 entry.2) done).entries =
      done.entries ++ rest := by
  induction rest generalizing done with
  | nil => simp
  | cons entry rest ih =>
    have last : ∀ name ∈ done.entries.map Prod.fst, name < entry.1 := by
      intro name declared
      rw [List.map_append, List.pairwise_append] at sorted
      exact sorted.2.2 _ declared _ List.mem_cons_self
    have inserted : (done.insert entry.1 entry.2).entries = done.entries ++ [entry] :=
      insertEntry_of_last last
    rw [List.foldl_cons, ih (by simpa [inserted] using sorted), inserted, List.append_assoc,
      List.singleton_append]

/-- A map is declared again by its entries. -/
theorem ofList_entries (map : SortedMap α) : ofList map.entries = map := by
  have same : (ofList map.entries).entries = (empty : SortedMap α).entries ++ map.entries :=
    entries_foldl_insert map.sorted_keys
  cases map
  cases declared : ofList _
  rw [declared] at same
  cases same
  rfl

end SortedMap

namespace Data

variable {item? value? : Data → Option α} {toData : α → Data}

theorem counter?_natural {n : Nat} (small : n < wordBound) : counter? (.natural n) = some n := by
  simp [counter?, small]

/-- A limit reads back: it is held as a word. -/
theorem limit?_natural (limit : UInt64) : limit? (.natural limit.toNat) = some limit := by
  rw [limit?, counter?_natural limit.toNat_lt, Option.map_some, UInt64.ofNat_toNat]

/-- What is made of items reads together when it reads one by one. -/
theorem mapM_map_eq_some {make : α → β} {read : β → Option γ} {seen : α → γ} {items : List α}
    (reads : ∀ item ∈ items, read (make item) = some (seen item)) :
    (items.map make).mapM read = some (items.map seen) := by
  induction items with
  | nil => rfl
  | cons item rest ih =>
    rw [List.map_cons, List.mapM_cons, reads item List.mem_cons_self,
      ih fun item member => reads item (List.mem_cons_of_mem _ member)]
    rfl

/-- Items that each read back do so together. -/
theorem list?_map {items : List α} (back : ∀ item ∈ items, item? (toData item) = some item) :
    list? item? (.list (items.map toData)) = some items := by
  have read : (items.map toData).mapM item? = some (items.map id) := mapM_map_eq_some back
  rw [list?, read, List.map_id]

private theorem entries?_record {entries : List (String × α)}
    (back : ∀ entry ∈ entries, value? (toData entry.2) = some entry.2) :
    entries? value? (.record (entries.map fun entry => (entry.1, toData entry.2))) =
      some entries := by
  have read : (entries.map fun entry => (entry.1, toData entry.2)).mapM
      (fun field => (value? field.2).map (field.1, ·)) = some (entries.map id) :=
    mapM_map_eq_some fun entry member => by simp [back entry member]
  rw [entries?, read, List.map_id]

/-- A map whose values read back does so, in its order. -/
theorem orderedMap?_record {map : OrderedMap α}
    (back : ∀ entry ∈ map.entries, value? (toData entry.2) = some entry.2) :
    orderedMap? value? (.record (map.entries.map fun entry => (entry.1, toData entry.2))) =
      some map := by
  rw [orderedMap?, entries?_record back, Option.map_some, map.ofList_entries]

theorem sortedMap?_record {map : SortedMap α}
    (back : ∀ entry ∈ map.entries, value? (toData entry.2) = some entry.2) :
    sortedMap? value? (.record (map.entries.map fun entry => (entry.1, toData entry.2))) =
      some map := by
  rw [sortedMap?, entries?_record back, Option.map_some, map.ofList_entries]

/-- A field as a record gives it or leaves it out. -/
def Field.ofOption : Option Data → Field
  | some value => .given value
  | none => .omitted

/-- Of the entries with distinct names, one has the name of each. -/
theorem filter_eq_singleton {entries : List (String × α)} {entry : String × α}
    (nodup : (entries.map Prod.fst).Nodup) (member : entry ∈ entries) :
    entries.filter (·.1 = entry.1) = [entry] := by
  induction entries with
  | nil => cases member
  | cons first rest ih =>
    rw [List.map_cons, List.nodup_cons] at nodup
    rcases List.mem_cons.mp member with rfl | later
    · have none : rest.filter (·.1 = entry.1) = [] := by
        refine List.filter_eq_nil_iff.mpr fun other among => ?_
        simp only [decide_eq_true_eq]
        intro same
        exact nodup.1 (same ▸ List.mem_map_of_mem among)
      simp [none]
    · have differs : first.1 ≠ entry.1 := by
        intro same
        exact nodup.1 (same ▸ List.mem_map_of_mem later)
      rw [List.filter_cons_of_neg (by simpa using differs), ih nodup.2 later]

/-- The fields of a record that leaves fields out. -/
def presentFields (entries : List (String × Option Data)) : List (String × Data) :=
  entries.filterMap fun entry => entry.2.map (entry.1, ·)

variable {entries : List (String × Option Data)}

theorem mem_presentFields {field : String × Data} :
    field ∈ presentFields entries ↔ (field.1, some field.2) ∈ entries := by
  simp only [presentFields, List.mem_filterMap, Option.map_eq_some_iff]
  constructor
  · rintro ⟨⟨name, _⟩, member, value, rfl, rfl⟩
    exact member
  · intro member
    exact ⟨_, member, _, rfl, rfl⟩

theorem presentFields_append (front behind : List (String × Option Data)) :
    presentFields (front ++ behind) = presentFields front ++ presentFields behind :=
  List.filterMap_append

/-- The names that are left are among those that were given, in their order. -/
theorem names_presentFields :
    ((presentFields entries).map Prod.fst).Sublist (entries.map Prod.fst) := by
  induction entries with
  | nil => exact List.Sublist.refl _
  | cons entry entries ih =>
    obtain ⟨name, value⟩ := entry
    cases value with
    | none => exact ih.cons _
    | some value => exact ih.cons_cons _

private theorem fieldOf?_presentFields {entry : String × Option Data}
    (nodup : (entries.map Prod.fst).Nodup) (member : entry ∈ entries) :
    fieldOf? (presentFields entries) entry.1 = some (.ofOption entry.2) := by
  have named : (presentFields entries).filter (·.1 = entry.1) =
      presentFields (entries.filter (·.1 = entry.1)) := by
    simp only [presentFields, List.filter_filterMap, List.filterMap_filter]
    congr 1
    funext other
    cases other.2 <;> by_cases same : other.1 = entry.1 <;> simp [same]
  rw [fieldOf?, named, filter_eq_singleton nodup member]
  obtain ⟨name, value⟩ := entry
  cases value <;> rfl

/-- A structure that leaves fields out has the fields that it was given, and no other. -/
theorem fields?_present {names : List String} (named : entries.map Prod.fst = names)
    (nodup : names.Nodup) :
    (present entries).fields? names = some (entries.map fun entry => .ofOption entry.2) := by
  subst named
  have known : (presentFields entries).filter (!(entries.map Prod.fst).contains ·.1) = [] := by
    refine List.filter_eq_nil_iff.mpr fun field member => ?_
    have named : field.1 ∈ entries.map Prod.fst :=
      List.mem_map_of_mem (mem_presentFields.mp member)
    simpa using named
  have read : (entries.map Prod.fst).mapM (fieldOf? (presentFields entries)) =
      some (entries.map fun entry => .ofOption entry.2) :=
    mapM_map_eq_some fun entry member => fieldOf?_presentFields nodup member
  have written : present entries = .record (presentFields entries) := rfl
  rw [written, fields?, known, haveSkippable, if_pos rfl, read]

@[simp] theorem Field.withDefault_given {default : α} {data : Data} :
    (given data).withDefault default value? = value? data := rfl

/-- A value that may be missing, read from a field that leaves it out. -/
theorem Field.withDefault_ofOption {value : Option α}
    (back : ∀ given, value = some given →
      (toData given).nullable? value? = some (some given)) :
    (ofOption (value.map toData)).withDefault none (Data.nullable? value?) = some value := by
  cases value with
  | none => rfl
  | some given => exact back given rfl

/-- A variant is read under its tag, with its fields as a reader keeps them. -/
theorem tagged?_record {tag variant : String} {fields kept : List (String × Data)}
    (readable : haveReadable fields = true) (closes : closedFields fields = kept)
    (apart : ∀ field ∈ kept, field.1 ≠ tag) :
    (record ((tag, .text variant) :: fields)).tagged? tag = some (variant, .record kept) := by
  have readable : (record ((tag, .text variant) :: fields)).isReadable = true := by
    simp [isReadable, haveReadable, readable]
  have closes : (record ((tag, .text variant) :: fields)).closed =
      .record ((tag, .text variant) :: kept) := by
    simp [closed, closedFields, closes]
  have alone : ((tag, Data.text variant) :: kept).filter (·.1 = tag) = [(tag, .text variant)] := by
    rw [List.filter_cons_of_pos (by simp), List.filter_eq_nil_iff.mpr]
    simpa using apart
  have others : ((tag, Data.text variant) :: kept).filter (·.1 ≠ tag) = kept := by
    rw [List.filter_cons_of_neg (by simp), List.filter_eq_self]
    simpa using apart
  rw [tagged?, if_pos readable, closes]
  simp only [alone, others]

theorem areReadable_texts (texts : List String) : areReadable (texts.map .text) = true := by
  induction texts with
  | nil => rfl
  | cons text rest ih => rw [List.map_cons, areReadable, ih]; rfl

theorem closedItems_texts (texts : List String) :
    closedItems (texts.map .text) = texts.map .text := by
  induction texts with
  | nil => rfl
  | cons text rest ih => rw [List.map_cons, closedItems, ih]; rfl

end Data
end StepGraph
