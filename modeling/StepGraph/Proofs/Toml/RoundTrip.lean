import StepGraph.Proofs.Toml.Keys
import StepGraph.Proofs.Toml.Tree
import StepGraph.Proofs.Toml.Values

/-! Documents of TOML read back. The lines of a table put its values under the table, in their
order, and the header of a subtable puts that behind them. So a document of fields that fit comes
back with the plain values of each table first and its subtables after them, each list with an
open end. -/
namespace StepGraph.Toml

variable {builder next : Builder} {root entries tree : Entries} {path : List String}
  {origin : Origin} {close : Entries → Entries} {name : String} {data : Data}
  {fields : List (String × Data)} {cs : List Char} {depth : Nat}

/-- The plain values of a table, as a tree holds them. -/
def valueNodes : List (String × Data) → Entries
  | [] => []
  | (_, .record _) :: rest => valueNodes rest
  | (key, value) :: rest => (key, .value (opened value)) :: valueNodes rest

mutual

/-- A table as a tree holds it, which knows whether it has a header. -/
def tableNode? : Data → Option Node
  | .record fields =>
    some (.table (if hasHeader fields then .header else .path)
      (valueNodes fields ++ tableNodes fields))
  | _ => none

/-- The subtables of a table. -/
def tableNodes : List (String × Data) → Entries
  | [] => []
  | (key, value) :: rest => ((tableNode? value).map (key, ·)).toList ++ tableNodes rest

end

mutual

/-- Whether a value can be written at a depth of tables. -/
def Fits (depth : Nat) : Data → Prop
  | .record fields =>
    depth ≤ pathLimit + 1 ∧ (fields.map Prod.fst).Nodup ∧ FieldsFit (depth + 1) fields
  | data => IsInline data

/-- `Fits` of every field's value. -/
def FieldsFit (depth : Nat) : List (String × Data) → Prop
  | [] => True
  | (_, value) :: rest => Fits depth value ∧ FieldsFit depth rest

end

/-- What is left of a document, read with what has been built so far, makes up a tree. -/
def Reads (builder : Builder) (cs : List Char) (tree : Entries) : Prop :=
  ∀ fuel, cs.length < fuel → (lines? builder fuel cs).bind Builder.finish? = some tree

private theorem reads_end (finished : builder.finish? = some tree) : Reads builder [] tree := by
  intro fuel enough
  obtain ⟨fuel, rfl⟩ := Nat.exists_eq_succ_of_ne_zero (Nat.ne_zero_of_lt enough)
  exact finished

/-- An empty line makes no difference. -/
theorem reads_break : Reads builder ('\n' :: cs) tree ↔ Reads builder cs tree := by
  have skipped (fuel : Nat) : lines? builder (fuel + 1) ('\n' :: cs) = lines? builder fuel cs := rfl
  constructor
  · intro reads fuel enough
    rw [← skipped]
    exact reads (fuel + 1) (Nat.succ_lt_succ enough)
  · intro reads fuel enough
    obtain ⟨fuel, rfl⟩ := Nat.exists_eq_succ_of_ne_zero (Nat.ne_zero_of_lt enough)
    rw [skipped]
    exact reads fuel (Nat.lt_of_succ_lt_succ enough)

/-- What a key begins with ends no line and opens no header. -/
theorem endOfLine?_of_begins {c : Char} (begins : isBare c = true ∨ c = '"' ∨ c = '\'') :
    endOfLine? (c :: cs) = none := by
  obtain ⟨visible, _, comment, broken, returned, _⟩ := not_special_of_begins begins
  have skipped : skipComment (skipBlanks (c :: cs)) = c :: cs := by
    simp [skipBlanks, visible, skipComment, comment]
  simp [endOfLine?, skipped, lineBreak?, broken, returned]

private theorem lines?_of_key {c : Char} {tail rest : List Char} {fuel : Nat}
    (begins : isBare c = true ∨ c = '"' ∨ c = '\'')
    (key : key? (c :: tail) = some (path, name, '=' :: rest))
    (value : value? 1 ((skipBlanks rest).length + 1) (skipBlanks rest) = some (data, '\n' :: cs)) :
    lines? builder (fuel + 1) (c :: tail) =
      (builder.insert? path name data).bind fun next => lines? next fuel cs := by
  obtain ⟨visible, bracket, _⟩ := not_special_of_begins begins
  have skipped : skipBlanks (c :: tail) = c :: tail := by simp [skipBlanks, visible]
  have ended : endOfLine? ('\n' :: cs) = some cs := rfl
  simp [lines?, skipped, bracket, endOfLine?_of_begins begins, key, value, ended]

/-- The line of a key and its value adds the value. -/
theorem reads_value {key : String} (inserted : builder.insert? [] key (opened data) = some next)
    (isInline : IsInline data) (later : Reads next cs tree) :
    Reads builder (quoteKey key ++ [' ', '=', ' '] ++ inlineValue data ++ '\n' :: cs) tree := by
  intro fuel enough
  obtain ⟨fuel, rfl⟩ := Nat.exists_eq_succ_of_ne_zero (Nat.ne_zero_of_lt enough)
  have line : quoteKey key ++ [' ', '=', ' '] ++ inlineValue data ++ '\n' :: cs =
      quoteKey key ++ (' ' :: '=' :: ' ' :: (inlineValue data ++ '\n' :: cs)) := by simp
  rw [line] at enough ⊢
  have ends : EndsPath (' ' :: '=' :: ' ' :: (inlineValue data ++ '\n' :: cs)) :=
    ⟨by rintro _ ⟨⟩; rfl, by simp [skipBlanks, isBlank]⟩
  have read : key? (quoteKey key ++ (' ' :: '=' :: ' ' :: (inlineValue data ++ '\n' :: cs))) =
      some ([], key, '=' :: ' ' :: (inlineValue data ++ '\n' :: cs)) := by
    simpa [skipBlanks, isBlank] using key?_quoteKey key ends
  have visible : skipBlanks (' ' :: (inlineValue data ++ '\n' :: cs)) =
      inlineValue data ++ '\n' :: cs := by
    obtain ⟨first, others, written, begins⟩ := inlineValue_eq_cons isInline
    have space : isBlank ' ' = true := rfl
    simp [skipBlanks, space, written, begins.blank]
  have value : value? 1 ((skipBlanks (' ' :: (inlineValue data ++ '\n' :: cs))).length + 1)
      (skipBlanks (' ' :: (inlineValue data ++ '\n' :: cs))) =
        some (opened data, '\n' :: cs) := by
    rw [visible]
    refine value?_inlineValue isInline (.lineBreak cs) ?_
    rw [List.length_append]
    omega
  have short : cs.length < fuel := by
    simp only [List.length_append, List.length_cons] at enough
    omega
  obtain ⟨c, tail, written, begins⟩ := quoteKey_eq_cons key
  rw [written, List.cons_append] at read ⊢
  rw [lines?_of_key begins read value, inserted, Option.bind_some, later fuel short]

/-- The line of a header begins its table. -/
theorem reads_header (begun : builder.begin? ⟨path, name, false⟩ = some next)
    (few : path.length ≤ pathLimit) (later : Reads next cs tree) :
    Reads builder (headerLine (path ++ [name]) ++ cs) tree := by
  have line : headerLine (path ++ [name]) ++ cs =
      '\n' :: '[' :: (pathText (path ++ [name]) ++ ']' :: '\n' :: cs) := by
    simp [headerLine, pathText]
  rw [line, reads_break]
  intro fuel enough
  obtain ⟨fuel, rfl⟩ := Nat.exists_eq_succ_of_ne_zero (Nat.ne_zero_of_lt enough)
  have ends : EndsPath (']' :: '\n' :: cs) := ⟨by rintro _ ⟨⟩; rfl, by simp [skipBlanks, isBlank]⟩
  have header : header? false (pathText (path ++ [name]) ++ ']' :: '\n' :: cs) =
      some (⟨path, name, false⟩, cs) := by
    have ended : endOfLine? ('\n' :: cs) = some cs := rfl
    simp [header?, key?_pathText path name ends few, skipBlanks, isBlank, ended]
  have short : cs.length < fuel := by
    simp only [List.length_append, List.length_cons] at enough
    omega
  -- A path begins with no bracket, so the header is not taken for one of several tables.
  have opened :
      lines? builder (fuel + 1) ('[' :: (pathText (path ++ [name]) ++ ']' :: '\n' :: cs)) =
        lines? next fuel cs := by
    obtain ⟨c, tail, written, begins⟩ := pathText_eq_cons path name
    obtain ⟨_, bracket, _⟩ := not_special_of_begins begins
    rw [written, List.cons_append] at header ⊢
    simp [lines?, skipBlanks, isBlank, bracket, header, begun]
  rw [opened, later fuel short]

/-! ## Tables -/

/-- A value that is not a table. -/
def IsPlain (data : Data) : Prop := ∀ fields, data ≠ .record fields

private theorem Fits.isInline (fit : Fits depth data) (plain : IsPlain data) : IsInline data := by
  cases data with
  | record fields => exact absurd rfl (plain fields)
  | _ => exact fit

private theorem valueLines_cons (plain : IsPlain data) :
    valueLines ((name, data) :: fields) =
      quoteKey name ++ [' ', '=', ' '] ++ inlineValue data ++ '\n' :: valueLines fields := by
  rw [valueLines]
  exact plain

theorem valueNodes_cons (plain : IsPlain data) :
    valueNodes ((name, data) :: fields) = (name, .value (opened data)) :: valueNodes fields := by
  rw [valueNodes]
  exact plain

private theorem tableNodes_cons (key : String) (inner rest : List (String × Data)) :
    tableNodes ((key, .record inner) :: rest) =
      (key, .table (if hasHeader inner then .header else .path)
        (valueNodes inner ++ tableNodes inner)) :: tableNodes rest := rfl

theorem tableNodes_cons_of_isPlain (plain : IsPlain data) :
    tableNodes ((name, data) :: fields) = tableNodes fields := by
  cases data with
  | record inner => exact absurd rfl (plain inner)
  | _ => rfl

private theorem subtableLines_cons_of_isPlain (plain : IsPlain data) :
    subtableLines path ((name, data) :: fields) = subtableLines path fields := by
  cases data with
  | record inner => exact absurd rfl (plain inner)
  | _ => rfl

/-- The names in a table are those of its fields. -/
theorem mem_keys_of_nodes {key : String}
    (member : key ∈ (valueNodes fields ++ tableNodes fields).map Prod.fst) :
    key ∈ fields.map Prod.fst := by
  induction fields with
  | nil => exact member
  | cons field fields ih =>
    obtain ⟨name, value⟩ := field
    rw [List.map_cons, List.mem_cons]
    by_cases plain : IsPlain value
    · rw [valueNodes_cons plain, tableNodes_cons_of_isPlain plain, List.cons_append,
        List.map_cons, List.mem_cons] at member
      exact member.imp_right ih
    · obtain ⟨inner, rfl⟩ := not_forall_not.mp plain
      rw [tableNodes_cons, valueNodes, List.map_append, List.map_cons, List.mem_append,
        List.mem_cons] at member
      rcases member with among | same | later
      · exact Or.inr (ih (by rw [List.map_append, List.mem_append]; exact Or.inl among))
      · exact Or.inl same
      · exact Or.inr (ih (by rw [List.map_append, List.mem_append]; exact Or.inr later))

private theorem nodup_nodes (nodup : (fields.map Prod.fst).Nodup) :
    ((valueNodes fields ++ tableNodes fields).map Prod.fst).Nodup := by
  induction fields with
  | nil => exact nodup
  | cons field fields ih =>
    obtain ⟨name, value⟩ := field
    rw [List.map_cons, List.nodup_cons] at nodup
    have fresh : (name :: (valueNodes fields ++ tableNodes fields).map Prod.fst).Nodup :=
      List.nodup_cons.mpr ⟨fun among => nodup.1 (mem_keys_of_nodes among), ih nodup.2⟩
    by_cases plain : IsPlain value
    · rw [valueNodes_cons plain, tableNodes_cons_of_isPlain plain]
      exact fresh
    · obtain ⟨inner, rfl⟩ := not_forall_not.mp plain
      rw [tableNodes_cons, valueNodes, List.map_append, List.map_cons]
      rw [List.map_append] at fresh
      exact List.perm_middle.nodup_iff.mpr fresh

private theorem new_of_nodup {rest : Entries} {node : Node}
    (nodup : ((entries ++ (name, node) :: rest).map Prod.fst).Nodup) :
    lookup entries name = none := by
  rw [lookup_eq_none]
  intro among
  rw [List.map_append, List.nodup_append] at nodup
  exact nodup.2.2 _ among _ List.mem_cons_self rfl

/-- The lines of a table's plain values add them to the table, in their order. -/
theorem reads_values (fit : FieldsFit depth fields)
    (nodup : ((builder.current ++ valueNodes fields).map Prod.fst).Nodup)
    (later : Reads { builder with current := builder.current ++ valueNodes fields } cs tree) :
    Reads builder (valueLines fields ++ cs) tree := by
  induction fields generalizing builder with
  | nil => simpa [valueLines, valueNodes] using later
  | cons field fields ih =>
    obtain ⟨key, value⟩ := field
    by_cases plain : IsPlain value
    · rw [valueNodes_cons plain] at later nodup
      have inserted : builder.insert? [] key (opened value) = _ :=
        insert?_of_new (new_of_nodup nodup)
      rw [← List.singleton_append, ← List.append_assoc] at later nodup
      have rest : Reads { builder with
          current := builder.current ++ [(key, .value (opened value))] }
          (valueLines fields ++ cs) tree := ih fit.2 nodup later
      rw [valueLines_cons plain, List.append_assoc, List.cons_append]
      exact reads_value inserted (fit.1.isInline plain) rest
    · obtain ⟨inner, rfl⟩ := not_forall_not.mp plain
      exact ih fit.2 nodup later

/-- A table without a header begins with a subtable, and has no plain values. -/
theorem bare_cases (bare : hasHeader fields = false) :
    (∃ key inner rest, fields = (key, .record inner) :: rest) ∧
      valueLines fields = [] ∧ valueNodes fields = [] := by
  simp only [hasHeader, Bool.or_eq_false_iff, List.any_eq_false] at bare
  obtain ⟨present, noValue⟩ := bare
  have tables : ∀ field ∈ fields, ∃ inner, field.2 = .record inner := by
    intro field member
    have table := noValue field member
    split at table
    · rename_i inner same
      exact ⟨inner, same⟩
    · exact absurd rfl table
  clear noValue
  refine ⟨?_, ?_⟩
  · cases fields with
    | nil => cases present
    | cons field rest =>
      obtain ⟨inner, same⟩ := tables field List.mem_cons_self
      exact ⟨field.1, inner, rest, by rw [← same]⟩
  · clear present
    induction fields with
    | nil => exact ⟨rfl, rfl⟩
    | cons field fields ih =>
      obtain ⟨key, value⟩ := field
      obtain ⟨inner, rfl⟩ := tables _ List.mem_cons_self
      exact ih fun field member => tables field (List.mem_cons_of_mem _ member)

mutual

/-- The lines of a new table add it, with all that is in it, behind the entries that are there. -/
theorem reads_table (fields : List (String × Data)) {builder : Builder} {root entries : Entries}
    {path : List String} {origin : Origin} {close : Entries → Entries} {name : String}
    {cs : List Char} (finished : builder.finish? = some root)
    (reaches : Reaches root path origin entries close) (keeps : Keeps path origin close)
    (new : lookup entries name = none) (fit : Fits (path.length + 1) (.record fields))
    (later : ∀ next : Builder,
      next.finish? = some (close (entries ++ tableNodes [(name, .record fields)])) →
        Reads next cs tree) :
    Reads builder (tableLines (path ++ [name]) (.record fields) ++ cs) tree := by
  obtain ⟨shallow, nodup, fits⟩ := fit
  have distinct := nodup_nodes nodup
  have deeper : (path ++ [name]).length + 1 = path.length + 1 + 1 := by simp
  rw [← deeper] at fits
  by_cases header : hasHeader fields = true
  · have begun := begin?_of_reaches finished reaches new
    have ended := finish?_of_keeps (valueNodes fields) keeps new
    rw [tableLines, if_pos header, List.append_assoc, List.append_assoc]
    refine reads_header begun (Nat.le_of_succ_le_succ shallow) ?_
    refine reads_values fits (distinct.sublist (by simp)) ?_
    refine reads_subtables fields ended (keeps.child new .header) distinct fits ?_
    intro next done
    refine later next ?_
    rw [done, tableNodes_cons name, if_pos header]
    rfl
  · -- The table comes about as the path to its first subtable.
    obtain ⟨⟨key, inner, rest, rfl⟩, noLines, noNodes⟩ := bare_cases (by simpa using header)
    rw [noNodes, List.nil_append, tableNodes_cons] at distinct
    rw [tableLines, if_neg header, noLines, List.nil_append, List.nil_append, subtableLines,
      List.append_assoc]
    refine reads_table inner finished (reaches.missing new) (keeps.child new .path) rfl fits.1 ?_
    intro next done
    refine reads_subtables rest done (keeps.child new .path) distinct fits.2 ?_
    intro next done
    refine later next ?_
    rw [done, tableNodes_cons name, if_neg header, noNodes]
    rfl
termination_by (sizeOf fields, 1)

/-- The lines of subtables add them behind the entries that are there. -/
theorem reads_subtables (fields : List (String × Data)) {builder : Builder} {entries : Entries}
    {path : List String} {origin : Origin} {close : Entries → Entries} {cs : List Char}
    (finished : builder.finish? = some (close entries)) (keeps : Keeps path origin close)
    (nodup : ((entries ++ tableNodes fields).map Prod.fst).Nodup)
    (fits : FieldsFit (path.length + 1) fields)
    (later : ∀ next : Builder, next.finish? = some (close (entries ++ tableNodes fields)) →
      Reads next cs tree) :
    Reads builder (subtableLines path fields ++ cs) tree := by
  match fields with
  | [] =>
    refine later builder ?_
    rw [finished, tableNodes, List.append_nil]
  | (key, value) :: rest =>
    by_cases plain : IsPlain value
    · rw [tableNodes_cons_of_isPlain plain] at later nodup
      rw [subtableLines_cons_of_isPlain plain]
      exact reads_subtables rest finished keeps nodup fits.2 later
    · obtain ⟨inner, rfl⟩ := not_forall_not.mp plain
      rw [tableNodes_cons] at later nodup
      have new := new_of_nodup nodup
      rw [← List.singleton_append, ← List.append_assoc] at later nodup
      rw [subtableLines, List.append_assoc]
      refine reads_table inner finished (keeps entries) keeps new fits.1 ?_
      intro next done
      exact reads_subtables rest done keeps nodup fits.2 later
termination_by (sizeOf fields, 0)

end

/-! ## Documents -/

/-- Lines that begin with an empty one and a header, if there are any. -/
def BeginsWithHeader (cs : List Char) : Prop := cs = [] ∨ ∃ tail, cs = '\n' :: '[' :: tail

private theorem BeginsWithHeader.append {others : List Char} (first : BeginsWithHeader cs)
    (second : BeginsWithHeader others) : BeginsWithHeader (cs ++ others) := by
  rcases first with rfl | ⟨tail, rfl⟩
  · exact second
  · exact Or.inr ⟨tail ++ others, rfl⟩

mutual

theorem tableLines_begins (path : List String) (data : Data) :
    BeginsWithHeader (tableLines path data) := by
  match data with
  | .record fields =>
    by_cases header : hasHeader fields = true
    · rw [tableLines, if_pos header]
      exact Or.inr ⟨_, rfl⟩
    · rw [tableLines, if_neg header, (bare_cases (by simpa using header)).2.1]
      exact subtableLines_begins path fields
  | .null | .bool _ | .natural _ | .text _ | .list _ | .openList _ | .other | .unreadable
  | .impassable => exact Or.inl rfl

private theorem subtableLines_begins (path : List String) (fields : List (String × Data)) :
    BeginsWithHeader (subtableLines path fields) := by
  match fields with
  | [] => exact Or.inl rfl
  | (key, value) :: rest =>
    exact (tableLines_begins (path ++ [key]) value).append (subtableLines_begins path rest)

end

private theorem valueLines_begins (present : valueLines fields ≠ []) :
    ∃ c tail, valueLines fields = c :: tail ∧ (isBare c = true ∨ c = '"' ∨ c = '\'') := by
  induction fields with
  | nil => exact absurd rfl present
  | cons field fields ih =>
    obtain ⟨key, value⟩ := field
    by_cases plain : IsPlain value
    · obtain ⟨c, tail, written, begins⟩ := quoteKey_eq_cons key
      rw [valueLines_cons plain, written]
      exact ⟨c, _, rfl, begins⟩
    · obtain ⟨inner, rfl⟩ := not_forall_not.mp plain
      exact ih present

/-- The lines of a document build its tables, whatever is left of the last line. -/
theorem reads_document (nodup : (fields.map Prod.fst).Nodup) (fits : FieldsFit 1 fields) :
    Reads .empty (valueLines fields ++ (subtableLines [] fields ++ ['\n']))
      (valueNodes fields ++ tableNodes fields) := by
  have distinct := nodup_nodes nodup
  have finished : Builder.finish? ⟨[], none, valueNodes fields⟩ =
      some (id (valueNodes fields)) := rfl
  refine reads_values fits (distinct.sublist (by simp [Builder.empty])) ?_
  refine reads_subtables fields finished keeps_root distinct fits ?_
  intro next done
  exact reads_break.mpr (reads_end done)

/-- A text that is read to a tree, and begins with no byte-order mark, parses to what the tree
says. -/
theorem parse?_of_reads {text : String} (reads : Reads .empty text.toList tree)
    (unmarked : text.toList.head? ≠ some (Char.ofNat 0xFEFF)) :
    parse? text = some (.record (entriesToData tree)) := by
  unfold parse?
  generalize text.toList = cs at reads unmarked
  have read := reads (cs.length + 1) (Nat.lt_succ_self _)
  obtain ⟨built, done, finished⟩ := Option.bind_eq_some_iff.mp read
  cases cs with
  | nil => simp only [done, Option.bind_eq_bind, Option.bind_some, finished]
  | cons c rest =>
    have differs : c ≠ Char.ofNat 0xFEFF := by simpa using unmarked
    simp only [if_neg differs, done, Option.bind_eq_bind, Option.bind_some, finished]

/-- A value as it comes back: lists have an open end, and the plain values of a table stand in
front of its subtables. -/
def reread : Data → Data
  | .record fields => .record (entriesToData (valueNodes fields ++ tableNodes fields))
  | data => opened data

/-- A document reads back from its text, ended by a line break. -/
theorem parse?_render (nodup : (fields.map Prod.fst).Nodup) (fits : FieldsFit 1 fields) :
    parse? (render fields ++ "\n") = some (reread (.record fields)) := by
  have reads := reads_document nodup fits
  have ending : "\n".toList = ['\n'] := rfl
  by_cases plain : valueLines fields = []
  · rcases subtableLines_begins [] fields with none | ⟨tail, lines⟩
    · have written : (render fields ++ "\n").toList = ['\n'] := by
        simp [render, plain, none]
      rw [plain, none] at reads
      refine parse?_of_reads ?_ ?_
      · rwa [written]
      · rw [written]
        decide
    · -- The empty line above the first header is not written.
      have written : (render fields ++ "\n").toList = '[' :: tail ++ ['\n'] := by
        simp [render, plain, lines]
      rw [plain, lines] at reads
      refine parse?_of_reads ?_ ?_
      · rw [written]
        exact reads_break.mp reads
      · rw [written]
        simp
  · obtain ⟨c, tail, lines, begins⟩ := valueLines_begins plain
    obtain ⟨_, _, _, broken, _, unmarked⟩ := not_special_of_begins begins
    have written : (render fields ++ "\n").toList =
        valueLines fields ++ (subtableLines [] fields ++ ['\n']) := by
      simp [render, lines, broken]
    refine parse?_of_reads ?_ ?_
    · rwa [written]
    · rw [written, lines]
      simpa using unmarked

end StepGraph.Toml
