import StepGraph.Proofs.Toml.RoundTrip

/-! What documents keep. Values that stand in front of a table come back in front of it, a table of
texts comes back as it was, and of a table of tables each one does. A reader that keeps values aside
reads their lists to the end, and so has what was written. -/
namespace StepGraph.Toml

variable {data : Data} {front inner : List (String × Data)} {name : String}

private theorem IsInline.isPlain (isInline : IsInline data) : IsPlain data := by
  rintro fields rfl
  exact isInline

private theorem closedItems_of_isScalar {items : List Data}
    (scalars : ∀ item ∈ items, IsScalar item) :
    Data.closedItems items = items ∧ Data.areReadable items = true := by
  induction items with
  | nil => exact ⟨rfl, rfl⟩
  | cons item items ih =>
    obtain ⟨closes, readable⟩ :=
      ih fun item member => scalars item (List.mem_cons_of_mem _ member)
    have scalar := scalars item List.mem_cons_self
    have self : item.closed = item ∧ item.isReadable = true := by
      cases item with
      | bool => exact ⟨rfl, rfl⟩
      | natural => exact ⟨rfl, rfl⟩
      | text => exact ⟨rfl, rfl⟩
      | _ => cases scalar
    rw [Data.closedItems, Data.areReadable, self.1, self.2, closes, readable]
    exact ⟨rfl, rfl⟩

/-- A value that is kept aside is the one that was written. -/
theorem closed_opened (isInline : IsInline data) :
    (opened data).closed = data ∧ (opened data).isReadable = true := by
  cases data with
  | list items =>
    obtain ⟨closes, readable⟩ := closedItems_of_isScalar isInline
    exact ⟨congrArg Data.list closes, readable⟩
  | bool => exact ⟨rfl, rfl⟩
  | natural => exact ⟨rfl, rfl⟩
  | text => exact ⟨rfl, rfl⟩
  | _ => cases isInline

/-- Values in front of a table come back in front of it. -/
theorem reread_append (inlines : ∀ field ∈ front, IsInline field.2) :
    reread (.record (front ++ [(name, .record inner)])) =
      .record (front.map (fun field => (field.1, opened field.2)) ++
        [(name, reread (.record inner))]) := by
  have same : entriesToData (valueNodes (front ++ [(name, .record inner)]) ++
      tableNodes (front ++ [(name, .record inner)])) =
        front.map (fun field => (field.1, opened field.2)) ++ [(name, reread (.record inner))] := by
    induction front with
    | nil => rfl
    | cons field front ih =>
      have plain := (inlines field List.mem_cons_self).isPlain
      have later := ih fun field member => inlines field (List.mem_cons_of_mem _ member)
      rw [List.cons_append, valueNodes_cons plain, tableNodes_cons_of_isPlain plain,
        List.cons_append, entriesToData, later]
      rfl
  exact congrArg Data.record same

/-- A table of texts comes back as it was. -/
theorem reread_texts (entries : List (String × String)) :
    reread (.record (entries.map fun entry => (entry.1, .text entry.2))) =
      .record (entries.map fun entry => (entry.1, .text entry.2)) := by
  have same : entriesToData (valueNodes (entries.map fun entry => (entry.1, .text entry.2)) ++
      tableNodes (entries.map fun entry => (entry.1, .text entry.2))) =
        entries.map fun entry => (entry.1, .text entry.2) := by
    induction entries with
    | nil => rfl
    | cons entry entries ih => exact congrArg ((entry.1, Data.text entry.2) :: ·) ih
  exact congrArg Data.record same

/-- Of a table of tables, each one comes back. -/
theorem reread_tables {entries : List (String × Data)}
    (tables : ∀ entry ∈ entries, ¬ IsPlain entry.2) :
    reread (.record entries) = .record (entries.map fun entry => (entry.1, reread entry.2)) := by
  have same : entriesToData (valueNodes entries ++ tableNodes entries) =
        entries.map fun entry => (entry.1, reread entry.2) := by
    have bare : valueNodes entries = [] := by
      induction entries with
      | nil => rfl
      | cons entry entries ih =>
        obtain ⟨inner, same⟩ := not_forall_not.mp (tables entry List.mem_cons_self)
        obtain ⟨key, value⟩ := entry
        cases same
        exact ih fun entry member => tables entry (List.mem_cons_of_mem _ member)
    rw [bare, List.nil_append]
    clear bare
    induction entries with
    | nil => rfl
    | cons entry entries ih =>
      obtain ⟨inner, same⟩ := not_forall_not.mp (tables entry List.mem_cons_self)
      obtain ⟨key, value⟩ := entry
      cases same
      have later := ih fun entry member => tables entry (List.mem_cons_of_mem _ member)
      exact congrArg ((key, reread (.record inner)) :: ·) later
  exact congrArg Data.record same

/-- Values that are kept aside are those that were written. -/
theorem closedFields_opened {behind : List (String × Data)}
    (inlines : ∀ field ∈ front, IsInline field.2)
    (kept : Data.closedFields behind = behind ∧ Data.haveReadable behind = true) :
    Data.closedFields (front.map (fun field => (field.1, opened field.2)) ++ behind) =
        front ++ behind ∧
      Data.haveReadable (front.map (fun field => (field.1, opened field.2)) ++ behind) = true := by
  induction front with
  | nil => exact kept
  | cons field front ih =>
    obtain ⟨closes, readable⟩ := closed_opened (inlines field List.mem_cons_self)
    obtain ⟨others, rest⟩ := ih fun field member => inlines field (List.mem_cons_of_mem _ member)
    rw [List.map_cons, List.cons_append, Data.closedFields, Data.haveReadable, closes, readable,
      others, rest]
    exact ⟨rfl, rfl⟩

theorem closed_texts (entries : List (String × String)) :
    Data.closedFields (entries.map fun entry => (entry.1, .text entry.2)) =
        (entries.map fun entry => (entry.1, .text entry.2)) ∧
      Data.haveReadable (entries.map fun entry => (entry.1, .text entry.2)) = true := by
  induction entries with
  | nil => exact ⟨rfl, rfl⟩
  | cons entry entries ih =>
    rw [List.map_cons, Data.closedFields, Data.haveReadable, ih.1, ih.2]
    exact ⟨rfl, rfl⟩

theorem fieldsFit_of_forall {depth : Nat} {fields : List (String × Data)}
    (fits : ∀ field ∈ fields, Fits depth field.2) : FieldsFit depth fields := by
  induction fields with
  | nil => trivial
  | cons field fields ih =>
    exact ⟨fits field List.mem_cons_self, ih fun field member =>
      fits field (List.mem_cons_of_mem _ member)⟩

theorem IsInline.fits {depth : Nat} (isInline : IsInline data) : Fits depth data := by
  cases data with
  | record fields => cases isInline
  | _ => exact isInline

theorem isInline_texts (texts : List String) : IsInline (.list (texts.map .text)) := by
  intro item member
  obtain ⟨text, _, rfl⟩ := List.mem_map.mp member
  trivial

end StepGraph.Toml
