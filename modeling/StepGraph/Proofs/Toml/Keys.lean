import StepGraph.Proofs.Json.Scalars
import StepGraph.Proofs.Toml.Texts

/-! Keys in TOML. A key reads back from its text, with marks or without, and so do the keys on the
path of a header, as long as there are no more of them than a reader takes. -/
namespace StepGraph.Toml

variable {cs rest : List Char} {key name : String} {points : Nat}

private theorem all_isBare_of_isBareKey (bare : isBareKey cs = true) :
    ∀ c ∈ cs, isBare c = true := by
  simp only [isBareKey, Bool.and_eq_true] at bare
  exact List.all_eq_true.mp bare.2

/-- A key begins with a character of its own or with a mark. -/
theorem quoteKey_eq_cons (key : String) :
    ∃ c tail, quoteKey key = c :: tail ∧ (isBare c = true ∨ c = '"' ∨ c = '\'') := by
  unfold quoteKey
  generalize key.toList = cs
  by_cases bare : isBareKey cs = true
  · cases cs with
    | nil => cases bare
    | cons c cs =>
      have visible := all_isBare_of_isBareKey bare c List.mem_cons_self
      exact ⟨c, cs, by simp [bare], Or.inl visible⟩
  · simp only [bare]
    cases Marks.forKey cs with
    | basic => exact ⟨'"', _, rfl, Or.inr (Or.inl rfl)⟩
    | literal => exact ⟨'\'', _, rfl, Or.inr (Or.inr rfl)⟩
    | basicLines => exact ⟨'"', _, rfl, Or.inr (Or.inl rfl)⟩
    | literalLines => exact ⟨'\'', _, rfl, Or.inr (Or.inr rfl)⟩

/-- What a key begins with begins nothing else that a line may begin with. -/
theorem not_special_of_begins {c : Char} (begins : isBare c = true ∨ c = '"' ∨ c = '\'') :
    isBlank c = false ∧ c ≠ '[' ∧ c ≠ '#' ∧ c ≠ '\n' ∧ c ≠ '\r' ∧ c ≠ Char.ofNat 0xFEFF := by
  have special : ∀ other ∈ [' ', '\t', '[', '#', '\n', '\r', Char.ofNat 0xFEFF], c ≠ other := by
    rintro other member rfl
    simp only [List.mem_cons, List.not_mem_nil, or_false] at member
    rcases member with rfl | rfl | rfl | rfl | rfl | rfl | rfl <;> revert begins <;> decide
  simp only [List.forall_mem_cons] at special
  obtain ⟨space, tab, bracket, comment, broken, returned, byteOrder, _⟩ := special
  exact ⟨by simp [isBlank, space, tab], bracket, comment, broken, returned, byteOrder⟩

private theorem skipBlanks_quoteKey : skipBlanks (quoteKey key ++ rest) = quoteKey key ++ rest := by
  obtain ⟨c, tail, written, begins⟩ := quoteKey_eq_cons key
  simp [written, skipBlanks, (not_special_of_begins begins).1]

/-- Where a key may end: what follows cannot belong to it. -/
def EndsKey (rest : List Char) : Prop := ∀ c, rest.head? = some c → isBare c = false

private theorem keyPart?_bare (bare : isBareKey cs = true) (ends : EndsKey rest) :
    keyPart? (cs ++ rest) = some (String.ofList cs, rest) := by
  have all := all_isBare_of_isBareKey bare
  cases cs with
  | nil => cases bare
  | cons c cs =>
    have visible := all c List.mem_cons_self
    have front := takeWhile_word all ends
    have behind := dropWhile_word all ends
    rw [List.cons_append] at front behind ⊢
    unfold keyPart?
    split
    · rename_i same
      cases same
      exact absurd visible (by decide)
    · rename_i same
      cases same
      exact absurd visible (by decide)
    · simp [front, behind]

private theorem keyPart?_basic (cs : List Char) :
    keyPart? (Marks.basic.around cs ++ rest) = some (String.ofList cs, rest) := by
  have around : Marks.basic.around cs ++ rest =
      '"' :: (escapeText false 0 0 cs ++ '"' :: rest) := by simp [Marks.around]
  rw [around, keyPart?, basicText?_escapeText]
  · rfl
  · rw [List.length_append]
    omega

private theorem keyPart?_literal (plain : ∀ c ∈ cs, isPlain c = true ∧ c ≠ '\'') :
    keyPart? (Marks.literal.around cs ++ rest) = some (String.ofList cs, rest) := by
  have around : Marks.literal.around cs ++ rest = '\'' :: (cs ++ '\'' :: rest) := by
    simp [Marks.around]
  rw [around, keyPart?, literalText?_append [] plain]
  rfl

/-- A key reads back, with the marks that were chosen for it or without any. -/
theorem keyPart?_quoteKey (key : String) (ends : EndsKey rest) :
    keyPart? (quoteKey key ++ rest) = some (key, rest) := by
  have same : key = String.ofList key.toList := by simp
  unfold quoteKey
  rw [same]
  simp only [String.toList_ofList]
  generalize key.toList = cs
  by_cases bare : isBareKey cs = true
  · rw [if_pos bare, keyPart?_bare bare ends]
  rw [if_neg bare]
  simp only [Marks.forKey]
  split
  · exact keyPart?_basic cs
  split
  · rename_i literal
    simp only [Bool.and_eq_true, Bool.not_eq_true', decide_eq_true_eq] at literal
    refine keyPart?_literal fun c member => ?_
    have coded := List.any_eq_false.mp literal.1 c member
    simp only [Bool.or_eq_true, beq_iff_eq, not_or, Bool.not_eq_true] at coded
    refine ⟨isPlain_of_not_needsCode coded.1 coded.2, ?_⟩
    rintro rfl
    exact not_mem_of_longestRun literal.2 member
  · exact keyPart?_basic cs

/-- The keys of a path with points between them. -/
def pathText (path : List String) : List Char := List.intercalate ['.'] (path.map quoteKey)

private theorem pathText_singleton (key : String) : pathText [key] = quoteKey key := by
  simp [pathText, List.intercalate]

private theorem pathText_cons (key name : String) (path : List String) :
    pathText (key :: name :: path) = quoteKey key ++ '.' :: pathText (name :: path) := by
  simp [pathText, List.intercalate]

/-- Where a path may end: after blanks, what follows is no point. -/
structure EndsPath (rest : List Char) : Prop where
  key : EndsKey rest
  point : (skipBlanks rest).head? ≠ some '.'

/-- The keys of a path read back, if no more points stand between them than a reader takes. -/
theorem keyParts?_pathText (done path : List String) (name : String) (ends : EndsPath rest)
    (few : path.length ≤ points) :
    keyParts? done points (pathText (path ++ [name]) ++ rest) =
      some (done.reverse ++ path, name, skipBlanks rest) := by
  induction path generalizing done points with
  | nil =>
    rw [List.nil_append, pathText_singleton, keyParts?, skipBlanks_quoteKey,
      keyPart?_quoteKey name ends.key]
    have point := ends.point
    split
    · cases ‹some _ = none›
    · rename_i read
      cases read
      split
      · rename_i same
        rw [same] at point
        exact absurd rfl point
      · rename_i same
        rw [same] at point
        exact absurd rfl point
      · simp
  | cons key path ih =>
    obtain ⟨points, rfl⟩ := Nat.exists_eq_succ_of_ne_zero (Nat.ne_zero_of_lt few)
    obtain ⟨next, others, begins⟩ : ∃ next others, path ++ [name] = next :: others :=
      List.exists_cons_of_ne_nil (by simp)
    have later := ih (key :: done) (Nat.le_of_succ_le_succ few)
    rw [List.cons_append, begins, pathText_cons, ← begins, List.append_assoc, List.cons_append]
    have ends : EndsKey ('.' :: (pathText (path ++ [name]) ++ rest)) := by
      rintro _ ⟨⟩
      rfl
    rw [keyParts?, skipBlanks_quoteKey, keyPart?_quoteKey key ends]
    simpa [skipBlanks, isBlank] using later

theorem key?_pathText (path : List String) (name : String) (ends : EndsPath rest)
    (few : path.length ≤ pathLimit) :
    key? (pathText (path ++ [name]) ++ rest) = some (path, name, skipBlanks rest) :=
  keyParts?_pathText [] path name ends few

theorem key?_quoteKey (key : String) (ends : EndsPath rest) :
    key? (quoteKey key ++ rest) = some ([], key, skipBlanks rest) := by
  rw [← pathText_singleton]
  exact key?_pathText [] key ends (Nat.zero_le _)

/-- A path begins as its first key does. -/
theorem pathText_eq_cons (path : List String) (name : String) :
    ∃ c tail, pathText (path ++ [name]) = c :: tail ∧ (isBare c = true ∨ c = '"' ∨ c = '\'') := by
  cases path with
  | nil =>
    rw [List.nil_append, pathText_singleton]
    exact quoteKey_eq_cons name
  | cons key path =>
    obtain ⟨c, tail, written, begins⟩ := quoteKey_eq_cons key
    obtain ⟨next, others, same⟩ : ∃ next others, path ++ [name] = next :: others :=
      List.exists_cons_of_ne_nil (by simp)
    rw [List.cons_append, same, pathText_cons, written]
    exact ⟨c, _, rfl, begins⟩

end StepGraph.Toml
