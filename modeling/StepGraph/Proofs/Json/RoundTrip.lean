import StepGraph.Proofs.Json.Scalars

/-! Printed data reads back. A value that fits, printed in any layout that differs
from the compact one only in blanks, is read as itself in front of whatever may
follow a value. The reader counts its calls down; each of them is paid for by a
character of the text. -/
namespace StepGraph.Json

variable {layout : Layout} {depth indent fuel : Nat} {blanks cs rest : List Char}

/-- Characters that are all blanks. -/
def Blank (cs : List Char) : Prop := ∀ c ∈ cs, isBlank c = true

private theorem skipBlanks_append (blank : Blank blanks) :
    skipBlanks (blanks ++ cs) = skipBlanks cs :=
  List.dropWhile_append_of_pos blank

private theorem skipBlanks_cons {c : Char} (visible : isBlank c = false) :
    skipBlanks (c :: cs) = c :: cs := by
  simp [skipBlanks, visible]

private theorem Ends.of_blank (ends : Ends rest) (blank : Blank blanks) :
    Ends (blanks ++ rest) := by
  cases blanks with
  | nil => exact ends
  | cons c blanks =>
    rintro _ ⟨⟩
    exact Or.inl (blank c List.mem_cons_self)

private theorem ends_comma : Ends (',' :: rest) := by
  rintro _ ⟨⟩
  exact Or.inr (Or.inl rfl)

private theorem ends_bracket : Ends (']' :: rest) := by
  rintro _ ⟨⟩
  exact Or.inr (Or.inr (Or.inl rfl))

private theorem ends_brace : Ends ('}' :: rest) := by
  rintro _ ⟨⟩
  exact Or.inr (Or.inr (Or.inr rfl))

/-- A layout adds nothing but blanks. -/
structure Layout.Lawful (layout : Layout) : Prop where
  lineBreak : ∀ depth, Blank (layout.lineBreak depth)
  colon : ∃ before after, layout.colon = before ++ ':' :: after ∧ Blank before ∧ Blank after

private theorem Layout.pretty_lawful : Layout.pretty.Lawful where
  lineBreak depth c member := by
    rcases List.mem_cons.mp member with rfl | member
    · rfl
    · rw [List.eq_of_mem_replicate member]
      rfl
  colon := ⟨[], [' '], rfl, nofun, by simp [Blank, isBlank]⟩

mutual

/-- Whether a value at a depth of nesting is one that fields take and a reader can
hold. -/
def Fits (depth : Nat) : Data → Prop
  | .null => True
  | .bool _ => True
  | .natural value => value < Data.wordBound
  | .text _ => True
  | .list items => depth < nestingLimit ∧ FitAll (depth + 1) items
  | .openList _ => False
  | .record fields => depth < nestingLimit ∧ FitFields (depth + 1) fields
  | .other => False
  | .unreadable => False
  | .impassable => False

/-- `Fits` of every item. -/
def FitAll (depth : Nat) : List Data → Prop
  | [] => True
  | item :: rest => Fits depth item ∧ FitAll depth rest

/-- `Fits` of every field's value. -/
def FitFields (depth : Nat) : List (String × Data) → Prop
  | [] => True
  | (_, value) :: rest => Fits depth value ∧ FitFields depth rest

end

theorem fitFields_of_forall {fields : List (String × Data)}
    (fits : ∀ field ∈ fields, Fits depth field.2) : FitFields depth fields := by
  induction fields with
  | nil => trivial
  | cons field fields ih =>
    exact ⟨fits field List.mem_cons_self, ih fun field member =>
      fits field (List.mem_cons_of_mem _ member)⟩

theorem fitAll_map {α : Type} {f : α → Data} {xs : List α} (fits : ∀ x ∈ xs, Fits depth (f x)) :
    FitAll depth (xs.map f) := by
  induction xs with
  | nil => trivial
  | cons x xs ih =>
    exact ⟨fits x List.mem_cons_self, ih fun x member => fits x (List.mem_cons_of_mem _ member)⟩

/-- The first character of a value is no blank and closes nothing. -/
theorem render_eq_cons (layout : Layout) (indent : Nat) (data : Data) :
    ∃ c tail, render layout indent data = c :: tail ∧ isBlank c = false ∧ c ≠ ']' := by
  cases data with
  | natural value =>
    obtain ⟨first, tail, split, _⟩ := Text.Decimal.digits_eq_cons value
    have digit := Text.Decimal.isDigit_of_mem_digits (split ▸ List.mem_cons_self)
    refine ⟨first, tail, split, isBlank_of_isDigit digit, ?_⟩
    rintro rfl
    exact absurd digit (by decide)
  | bool value =>
    cases value with
    | false => exact ⟨'f', _, rfl, rfl, by decide⟩
    | true => exact ⟨'t', _, rfl, rfl, by decide⟩
  | record fields =>
    cases fields with
    | nil => exact ⟨'{', _, rfl, rfl, by decide⟩
    | cons field fields => exact ⟨'{', _, rfl, rfl, by decide⟩
  | text value => exact ⟨'"', _, rfl, rfl, by decide⟩
  | list items => exact ⟨'[', _, rfl, rfl, by decide⟩
  | openList items => exact ⟨'[', _, rfl, rfl, by decide⟩
  | null => exact ⟨'n', _, rfl, rfl, by decide⟩
  | other => exact ⟨'n', _, rfl, rfl, by decide⟩
  | unreadable => exact ⟨'n', _, rfl, rfl, by decide⟩
  | impassable => exact ⟨'n', _, rfl, rfl, by decide⟩

private theorem value?_blanks (blank : Blank blanks) :
    value? depth fuel (blanks ++ cs) = value? depth fuel cs := by
  cases fuel with
  | zero => rfl
  | succ fuel => simp only [value?, skipBlanks_append blank]

private theorem items?_blanks (blank : Blank blanks) :
    items? depth fuel (blanks ++ cs) = items? depth fuel cs := by
  cases fuel with
  | zero => rfl
  | succ fuel => simp only [items?, value?_blanks blank]

private theorem fieldList?_blanks (blank : Blank blanks) :
    fieldList? depth fuel (blanks ++ cs) = fieldList? depth fuel cs := by
  cases fuel with
  | zero => rfl
  | succ fuel => simp only [fieldList?, skipBlanks_append blank]

/-- What begins with a digit is read as a number. -/
theorem value?_of_isDigit {first : Char} (digit : Text.Decimal.isDigit first = true) :
    value? depth (fuel + 1) (first :: cs) = number? (first :: cs) := by
  rw [value?, skipBlanks_cons (isBlank_of_isDigit digit)]
  split <;> first
    | rfl
    | (rename_i same
       cases same
       exact absurd digit (by decide))

/-- What follows an item: the other items, and the end of the list. -/
theorem ends_renderItems {items : List Data} (blank : Blank blanks) :
    Ends (renderItems layout indent items ++ (blanks ++ ']' :: rest)) := by
  cases items with
  | nil => exact ends_bracket.of_blank blank
  | cons item items => exact ends_comma

/-- What follows a field: the other fields, and the end of the record. -/
theorem ends_renderFields {fields : List (String × Data)} (blank : Blank blanks) :
    Ends (renderFields layout indent fields ++ (blanks ++ '}' :: rest)) := by
  cases fields with
  | nil => exact ends_brace.of_blank blank
  | cons field fields => exact ends_comma

/-- Fields that are all named make up a record. -/
theorem recordValue_named {fields : List (String × Data)} (held : depth < nestingLimit) :
    recordValue depth (fields.map fun field => (some field.1, field.2)) = .record fields := by
  have named : (fields.map fun field => (some field.1, field.2)).mapM
      (fun field : Option String × Data => field.1.map (·, field.2)) = some fields := by
    induction fields with
    | nil => rfl
    | cons field fields ih =>
      rw [List.map_cons, List.mapM_cons, ih]
      rfl
  rw [recordValue, if_pos held, named]

private theorem value?_quote {value : String} :
    value? depth (fuel + 1) (quote value ++ rest) = some (.text value, rest) := by
  have begun : quote value ++ rest =
      '"' :: (value.toList.flatMap escape ++ '"' :: rest) := by simp [quote]
  rw [begun, value?, skipBlanks_cons (by rfl)]
  simp only [textBody?_quote]

/-- A bracket before an item that is no bracket opens a list. -/
theorem value?_of_items {item : Data} {items : List Data} (blank : Blank blanks)
    (held : depth < nestingLimit)
    (read : items? (depth + 1) fuel (render layout indent item ++ cs) = some (items, rest)) :
    value? depth (fuel + 1) ('[' :: (blanks ++ (render layout indent item ++ cs))) =
      some (.list items, rest) := by
  obtain ⟨c, tail, headed, visible, inner⟩ := render_eq_cons layout indent item
  rw [value?, skipBlanks_cons (by rfl)]
  rw [headed] at read ⊢
  simp only [skipBlanks_append blank, List.cons_append, skipBlanks_cons visible] at read ⊢
  -- An item begins with no bracket, so the list is not taken to be empty.
  split
  · rename_i same
    cases same
    exact absurd rfl inner
  · rw [read]
    simp [listValue, held]

/-- A brace before a name opens a record. -/
theorem value?_of_fields {name : String} {fields : List (String × Data)} (blank : Blank blanks)
    (held : depth < nestingLimit)
    (read : fieldList? (depth + 1) fuel (quote name ++ cs) =
      some (fields.map fun field => (some field.1, field.2), rest)) :
    value? depth (fuel + 1) ('{' :: (blanks ++ (quote name ++ cs))) =
      some (.record fields, rest) := by
  have named : skipBlanks (quote name ++ cs) = quote name ++ cs := skipBlanks_cons rfl
  rw [value?, skipBlanks_cons (by rfl)]
  simp only [skipBlanks_append blank, named]
  split
  · rename_i same
    cases same
  · rw [read]
    simp only [recordValue_named held]

mutual

/-- A value that fits reads back from its text. -/
theorem value?_render (lawful : layout.Lawful) (data : Data) (depth indent fuel : Nat)
    (rest : List Char) (fits : Fits depth data) (ends : Ends rest)
    (enough : (render layout indent data).length < fuel) :
    value? depth fuel (render layout indent data ++ rest) = some (data, rest) := by
  obtain ⟨fuel, rfl⟩ := Nat.exists_eq_succ_of_ne_zero (Nat.ne_zero_of_lt enough)
  match data with
  | .null => rfl
  | .bool true => rfl
  | .bool false => rfl
  | .natural value =>
    obtain ⟨first, tail, split, _⟩ := Text.Decimal.digits_eq_cons value
    have digit := Text.Decimal.isDigit_of_mem_digits (split ▸ List.mem_cons_self)
    have begun : render layout indent (.natural value) ++ rest = first :: (tail ++ rest) := by
      rw [render, split, List.cons_append]
    rw [begun, value?_of_isDigit digit, ← List.cons_append, ← split]
    exact number?_digits fits ends
  | .text value => exact value?_quote
  | .list [] =>
    have begun : render layout indent (.list []) ++ rest = '[' :: ']' :: rest := by
      simp [render, renderList]
    rw [begun, value?, skipBlanks_cons (by rfl)]
    simp [skipBlanks_cons (show isBlank ']' = false from rfl), listValue, fits.1]
  | .list (item :: items) =>
    have begun : render layout indent (.list (item :: items)) ++ rest =
        '[' :: (layout.lineBreak (indent + 1) ++ (render layout (indent + 1) item ++
          (renderItems layout (indent + 1) items ++
            (layout.lineBreak indent ++ ']' :: rest)))) := by
      simp [render, renderList]
    have read := items?_render lawful item items (depth + 1) (indent + 1) fuel
      (layout.lineBreak indent) rest (lawful.lineBreak indent) fits.2 (by
        simp only [render, renderList, List.length_cons, List.length_append] at enough
        omega)
    rw [begun]
    exact value?_of_items (lawful.lineBreak (indent + 1)) fits.1 read
  | .record [] =>
    have begun : render layout indent (.record []) ++ rest = '{' :: '}' :: rest := rfl
    rw [begun, value?, skipBlanks_cons (by rfl)]
    simp [skipBlanks_cons (show isBlank '}' = false from rfl), recordValue, fits.1]
  | .record ((name, value) :: fields) =>
    have begun : render layout indent (.record ((name, value) :: fields)) ++ rest =
        '{' :: (layout.lineBreak (indent + 1) ++ (quote name ++ (layout.colon ++
          (render layout (indent + 1) value ++ (renderFields layout (indent + 1) fields ++
            (layout.lineBreak indent ++ '}' :: rest)))))) := by
      simp [render]
    have read := fieldList?_render lawful name value fields (depth + 1) (indent + 1) fuel
      (layout.lineBreak indent) rest (lawful.lineBreak indent) fits.2 (by
        simp only [render, List.length_cons, List.length_append] at enough
        omega)
    rw [begun]
    exact value?_of_fields (lawful.lineBreak (indent + 1)) fits.1 read
termination_by fuel

/-- The items of a list read back, over its closing bracket. -/
theorem items?_render (lawful : layout.Lawful) (item : Data) (items : List Data)
    (depth indent fuel : Nat) (blanks rest : List Char) (blank : Blank blanks)
    (fits : FitAll depth (item :: items))
    (enough : (render layout indent item).length + (renderItems layout indent items).length + 2 ≤
      fuel) :
    items? depth fuel (render layout indent item ++ (renderItems layout indent items ++
      (blanks ++ ']' :: rest))) = some (item :: items, rest) := by
  obtain ⟨fuel, rfl⟩ := Nat.exists_eq_succ_of_ne_zero (n := fuel) (by omega)
  have first := value?_render lawful item depth indent fuel
    (renderItems layout indent items ++ (blanks ++ ']' :: rest)) fits.1 (ends_renderItems blank)
    (by omega)
  rw [items?, first]
  match items with
  | [] =>
    simp [renderItems, skipBlanks_append blank, skipBlanks_cons (show isBlank ']' = false from rfl)]
  | next :: items =>
    have others := items?_render lawful next items depth indent fuel blanks rest blank fits.2 (by
      simp only [renderItems, List.length_cons, List.length_append] at enough
      omega)
    have begun : renderItems layout indent (next :: items) ++ (blanks ++ ']' :: rest) =
        ',' :: (layout.lineBreak indent ++ (render layout indent next ++
          (renderItems layout indent items ++ (blanks ++ ']' :: rest)))) := by
      simp [renderItems]
    simp only [begun, skipBlanks_cons (show isBlank ',' = false from rfl)]
    rw [items?_blanks (lawful.lineBreak indent), others]
termination_by fuel

/-- The fields of a record read back, over its closing brace. -/
theorem fieldList?_render (lawful : layout.Lawful) (name : String) (value : Data)
    (fields : List (String × Data)) (depth indent fuel : Nat) (blanks rest : List Char)
    (blank : Blank blanks) (fits : FitFields depth ((name, value) :: fields))
    (enough : (render layout indent value).length + (renderFields layout indent fields).length +
      2 ≤ fuel) :
    fieldList? depth fuel (quote name ++ (layout.colon ++ (render layout indent value ++
      (renderFields layout indent fields ++ (blanks ++ '}' :: rest))))) =
        some (((name, value) :: fields).map fun field => (some field.1, field.2), rest) := by
  obtain ⟨fuel, rfl⟩ := Nat.exists_eq_succ_of_ne_zero (n := fuel) (by omega)
  obtain ⟨before, after, colon, blankBefore, blankAfter⟩ := lawful.colon
  have first := value?_render lawful value depth indent fuel
    (renderFields layout indent fields ++ (blanks ++ '}' :: rest)) fits.1
    (ends_renderFields blank) (by omega)
  have begun (tail : List Char) : quote name ++ (layout.colon ++ tail) =
      '"' :: (name.toList.flatMap escape ++ '"' :: (before ++ ':' :: (after ++ tail))) := by
    simp [quote, colon]
  simp only [begun, fieldList?, skipBlanks_cons (show isBlank '"' = false from rfl),
    textBody?_quote, skipBlanks_append blankBefore,
    skipBlanks_cons (show isBlank ':' = false from rfl), value?_blanks blankAfter, first]
  match fields with
  | [] =>
    simp [renderFields, skipBlanks_append blank,
      skipBlanks_cons (show isBlank '}' = false from rfl)]
  | (other, next) :: fields =>
    have others := fieldList?_render lawful other next fields depth indent fuel blanks rest blank
      fits.2 (by
        simp only [renderFields, List.length_cons, List.length_append] at enough
        omega)
    have continued :
        renderFields layout indent ((other, next) :: fields) ++ (blanks ++ '}' :: rest) =
        ',' :: (layout.lineBreak indent ++ (quote other ++ (layout.colon ++
          (render layout indent next ++ (renderFields layout indent fields ++
            (blanks ++ '}' :: rest)))))) := by
      simp [renderFields]
    simp only [continued, skipBlanks_cons (show isBlank ',' = false from rfl)]
    rw [fieldList?_blanks (lawful.lineBreak indent), others]
    rfl
termination_by fuel

end

theorem blank_lineBreak : Blank "\n".toList := by simp [Blank, isBlank]

/-- The pretty text of a value that fits parses to it, whatever blanks end the text. -/
theorem parse?_pretty_append {data : Data} (fits : Fits 1 data) {ending : String}
    (blank : Blank ending.toList) : parse? (pretty data ++ ending) = some data := by
  have written : (pretty data ++ ending).toList = render .pretty 0 data ++ ending.toList := by
    rw [String.toList_append, pretty, String.toList_ofList]
  have ends : Ends ending.toList := by
    intro c first
    exact Or.inl (blank c (List.mem_of_mem_head? first))
  have read := value?_render Layout.pretty_lawful data 1 0
    ((render .pretty 0 data ++ ending.toList).length + 1) ending.toList fits ends (by
      rw [List.length_append]
      omega)
  have skipped : skipBlanks (ending.toList ++ []) = [] := skipBlanks_append blank
  rw [List.append_nil] at skipped
  simp only [parse?, written, read, skipped]
  rfl

/-- The pretty text of a value that fits, ended by a line break, parses to it. -/
theorem parse?_pretty {data : Data} (fits : Fits 1 data) :
    parse? (pretty data ++ "\n") = some data :=
  parse?_pretty_append fits blank_lineBreak

end StepGraph.Json
