import StepGraph.Proofs.Json.Scalars
import StepGraph.Proofs.Toml.Texts

/-! Values in TOML. Truth values, counters and texts read back from what is written for them, and so
does a list of such values, on one line or on several. A list comes back as one whose end may be
left unread, for that is how a reader sees any list of TOML. -/
namespace StepGraph.Toml

open Text (Decimal.isDigit Decimal.digits)

variable {cs rest word : List Char} {c : Char} {data item : Data} {items done : List Data}
  {depth fuel n : Nat}

/-- What may follow a value: a line break, a comma or the end of a list. -/
inductive EndsValue : List Char → Prop
  | lineBreak (rest : List Char) : EndsValue ('\n' :: rest)
  | comma (rest : List Char) : EndsValue (',' :: rest)
  | bracket (rest : List Char) : EndsValue (']' :: rest)

private theorem EndsValue.text (ends : EndsValue rest) : EndsText rest := by
  cases ends <;> simp [EndsText]

/-- A word without marks is read up to its end, and never goes on behind a blank. -/
theorem bareScalar?_append (inside : ∀ c ∈ word, endsScalar c = false) (ends : EndsValue rest) :
    bareScalar? (word ++ rest) = (scalar? word).map (·, rest) := by
  have inside : ∀ c ∈ word, (!endsScalar c) = true := fun c member => by simp [inside c member]
  have stops : ∀ c, rest.head? = some c → (!endsScalar c) = false := by
    cases ends <;> (rintro _ ⟨⟩; rfl)
  have front := takeWhile_word inside stops
  have behind := dropWhile_word inside stops
  unfold bareScalar?
  simp only [front, behind]
  cases ends <;> (split <;> simp_all)

private theorem ne_of_isDigit {other : Char} (digit : Decimal.isDigit c = true)
    (none : Decimal.isDigit other = false) : c ≠ other := by
  rintro rfl
  rw [none] at digit
  cases digit

private theorem endsScalar_of_isDigit (digit : Decimal.isDigit c = true) :
    endsScalar c = false := by
  have ends : ∀ other ∈ [' ', '\t', '\n', '\r', ',', ']', '}', '[', '{', '#', '"', '\'', '='],
      Decimal.isDigit other = false := by simp [Decimal.isDigit, Text.Decimal.digitValue?]
  have others := fun other member => ne_of_isDigit digit (ends other member)
  simp only [List.forall_mem_cons] at others
  simp [endsScalar, isBlank, others]

/-- What follows some of the digits is the others. -/
theorem digits_of_fixedDigits? {count : Nat} (digits : ∀ c ∈ cs, Decimal.isDigit c = true)
    (fixed : fixedDigits? count cs = some (n, rest)) : ∀ c ∈ rest, Decimal.isDigit c = true := by
  obtain ⟨_, same⟩ := Option.ite_none_right_eq_some.mp fixed
  cases same
  exact fun c member => digits c (List.mem_of_mem_drop member)

/-- Digits alone are no date. -/
theorem date?_of_digits (digits : ∀ c ∈ cs, Decimal.isDigit c = true) : date? cs = none := by
  unfold date?
  cases fixed : fixedDigits? 4 cs with
  | none => rfl
  | some found =>
    have others := digits_of_fixedDigits? digits fixed
    obtain ⟨year, rest⟩ := found
    cases rest with
    | nil => rfl
    | cons c rest =>
      have noDash : c ≠ '-' := ne_of_isDigit (others _ List.mem_cons_self) rfl
      simp [noDash]

/-- Nor are they a time. -/
theorem time?_of_digits (digits : ∀ c ∈ cs, Decimal.isDigit c = true) : time? cs = none := by
  have hours : hoursAndMinutes? cs = none := by
    unfold hoursAndMinutes?
    cases fixed : fixedDigits? 2 cs with
    | none => rfl
    | some found =>
      have others := digits_of_fixedDigits? digits fixed
      obtain ⟨hour, rest⟩ := found
      cases rest with
      | nil => rfl
      | cons c rest =>
        have noColon : c ≠ ':' := ne_of_isDigit (others _ List.mem_cons_self) rfl
        simp [noColon]
  simp [time?, hours]

private theorem separated?_of_digits (digits : ∀ c ∈ cs, Decimal.isDigit c = true)
    (present : cs ≠ []) :
    separated? Decimal.isDigit cs = some cs := by
  induction cs with
  | nil => exact absurd rfl present
  | cons c cs ih =>
    have digit := digits c List.mem_cons_self
    have others := fun c member => digits c (List.mem_cons_of_mem _ member)
    cases cs with
    | nil => simp [separated?, digit]
    | cons next cs =>
      have later := ih others (List.cons_ne_nil _ _)
      have noLine : next ≠ '_' := ne_of_isDigit (others _ List.mem_cons_self) rfl
      simp [separated?, digit, noLine, later]

/-- A counter reads back from its digits. -/
theorem number?_digits (small : n < Data.wordBound) :
    number? (Decimal.digits n) = some (.natural n) := by
  have digits := fun c => Text.Decimal.isDigit_of_mem_digits (n := n) (c := c)
  have value := Text.Decimal.value_digits n
  obtain ⟨first, others, split, leading⟩ := Text.Decimal.digits_eq_cons n
  by_cases zero : first = '0'
  · obtain ⟨rfl, rfl⟩ := leading zero
    rw [split, zero]
    rfl
  rw [split] at digits value ⊢
  have digit := digits first List.mem_cons_self
  have unsigned : first ≠ '-' ∧ first ≠ '+' ∧ first ≠ 'i' ∧ first ≠ 'n' :=
    ⟨ne_of_isDigit digit rfl, ne_of_isDigit digit rfl, ne_of_isDigit digit rfl,
      ne_of_isDigit digit rfl⟩
  have whole : ∀ c ∈ first :: others, isWholePart c = true := fun c member => by
    simp [isWholePart, digits c member]
  have separated := separated?_of_digits digits (List.cons_ne_nil _ _)
  have plain : plainDigits? (first :: others) = some (first :: others) := by
    simp [plainDigits?, separated, zero]
  have front : (first :: others).takeWhile isWholePart = first :: others :=
    List.takeWhile_eq_self_iff.mpr whole
  have behind : (first :: others).dropWhile isWholePart = [] := List.dropWhile_eq_nil_iff.mpr whole
  have read : decimal? false (first :: others) = some (.natural n) := by
    simp [decimal?, front, behind, plain, value, integerData, small]
  simp [number?, zero, signed, unsigned, read]

private theorem scalar?_digits (small : n < Data.wordBound) :
    scalar? (Decimal.digits n) = some (.natural n) := by
  have digits := fun c => Text.Decimal.isDigit_of_mem_digits (n := n) (c := c)
  have noWord {word : List Char} (begins : word.head?.any (!Decimal.isDigit ·) = true) :
      Decimal.digits n ≠ word := by
    rintro rfl
    cases written : Decimal.digits n with
    | nil => simp [written] at begins
    | cons first others =>
      have digit := digits first (written ▸ List.mem_cons_self)
      simp [written, digit] at begins
  have undated : datetime? (Decimal.digits n) = none := by
    simp [datetime?, date?_of_digits digits, time?_of_digits digits]
  rw [scalar?, if_neg (noWord (by decide)), if_neg (noWord (by decide)), undated]
  exact number?_digits small

/-- A value that is written without brackets. -/
def IsScalar : Data → Prop
  | .bool _ => True
  | .natural value => value < Data.wordBound
  | .text _ => True
  | _ => False

/-- A value that is written behind its key: a scalar, or a list of them. -/
def IsInline : Data → Prop
  | .list items => ∀ item ∈ items, IsScalar item
  | data => IsScalar data

private theorem IsScalar.isInline (scalar : IsScalar data) : IsInline data := by
  cases data with
  | list items => cases scalar
  | _ => exact scalar

/-- A character that begins a value, and nothing else between values. -/
structure Begins (c : Char) : Prop where
  blank : isBlank c = false
  comment : c ≠ '#'
  lineBreak : c ≠ '\n' ∧ c ≠ '\r'
  bracket : c ≠ ']'

private theorem begins_of_isDigit (digit : Decimal.isDigit c = true) : Begins c where
  blank := by
    have space := ne_of_isDigit digit (show Decimal.isDigit ' ' = false from rfl)
    have tab := ne_of_isDigit digit (show Decimal.isDigit '\t' = false from rfl)
    simp [isBlank, space, tab]
  comment := ne_of_isDigit digit rfl
  lineBreak := ⟨ne_of_isDigit digit rfl, ne_of_isDigit digit rfl⟩
  bracket := ne_of_isDigit digit rfl

private theorem quoteText_eq_cons (text : String) :
    ∃ c tail, quoteText text = c :: tail ∧ (c = '"' ∨ c = '\'') := by
  simp only [quoteText]
  cases Marks.forText text.toList with
  | basic => exact ⟨'"', _, rfl, Or.inl rfl⟩
  | literal => exact ⟨'\'', _, rfl, Or.inr rfl⟩
  | basicLines => exact ⟨'"', _, rfl, Or.inl rfl⟩
  | literalLines => exact ⟨'\'', _, rfl, Or.inr rfl⟩

theorem inlineValue_eq_cons (isInline : IsInline data) :
    ∃ c tail, inlineValue data = c :: tail ∧ Begins c := by
  cases data with
  | bool value =>
    cases value with
    | false => exact ⟨'f', _, by rw [inlineValue], by constructor <;> decide⟩
    | true => exact ⟨'t', _, by rw [inlineValue], by constructor <;> decide⟩
  | natural value =>
    obtain ⟨first, others, split, _⟩ := Text.Decimal.digits_eq_cons value
    have digit := Text.Decimal.isDigit_of_mem_digits (split ▸ List.mem_cons_self)
    exact ⟨first, others, by rw [inlineValue, split], begins_of_isDigit digit⟩
  | text value =>
    obtain ⟨c, tail, written, quote⟩ := quoteText_eq_cons value
    refine ⟨c, tail, by rw [inlineValue, written], ?_⟩
    rcases quote with rfl | rfl <;> constructor <;> decide
  | list items => exact ⟨'[', _, by rw [inlineValue], by constructor <;> decide⟩
  | _ => cases isInline

private theorem value?_of_bare (bracket : c ≠ '[') (brace : c ≠ '{') (quote : c ≠ '"')
    (apostrophe : c ≠ '\'') : value? depth (fuel + 1) (c :: cs) = bareScalar? (c :: cs) := by
  rw [value?]
  all_goals
    intros
    simp_all

/-- A word without marks is read as a scalar, for none of its characters begins another value. -/
theorem value?_word (inside : ∀ other ∈ c :: cs, endsScalar other = false)
    (ends : EndsValue rest) :
    value? depth (fuel + 1) (c :: cs ++ rest) = (scalar? (c :: cs)).map (·, rest) := by
  have apart (mark : Char) (ending : endsScalar mark = true) : c ≠ mark := by
    rintro rfl
    exact Bool.false_ne_true ((inside c List.mem_cons_self).symm.trans ending)
  rw [← bareScalar?_append inside ends, List.cons_append,
    value?_of_bare (apart '[' rfl) (apart '{' rfl) (apart '"' rfl) (apart '\'' rfl)]

/-- A scalar reads back in front of whatever ends it. -/
theorem value?_of_isScalar (scalar : IsScalar data) (ends : EndsValue rest) :
    value? depth (fuel + 1) (inlineValue data ++ rest) = some (data, rest) := by
  cases data with
  | bool value =>
    cases value with
    | false =>
      rw [inlineValue]
      exact value?_word (by simp [endsScalar, isBlank]) ends
    | true =>
      rw [inlineValue]
      exact value?_word (by simp [endsScalar, isBlank]) ends
  | natural value =>
    have inside : ∀ c ∈ Decimal.digits value, endsScalar c = false := fun c member =>
      endsScalar_of_isDigit (Text.Decimal.isDigit_of_mem_digits member)
    have read := scalar?_digits scalar
    obtain ⟨first, others, split, _⟩ := Text.Decimal.digits_eq_cons value
    rw [split] at inside read
    rw [inlineValue, split, value?_word inside ends, read, Option.map_some]
  | text value =>
    have read := text?_quoteText value ends.text
    obtain ⟨c, tail, written, quote⟩ := quoteText_eq_cons value
    rw [inlineValue]
    rw [written, List.cons_append] at read ⊢
    rcases quote with rfl | rfl <;> simp [value?, read]
  | _ => cases scalar

private theorem skipLines_of_begins (begins : Begins c) : skipLines fuel (c :: cs) = c :: cs := by
  have skipped : skipComment (skipBlanks (c :: cs)) = c :: cs := by
    simp [skipBlanks, begins.blank, skipComment, begins.comment]
  cases fuel with
  | zero => rfl
  | succ fuel => simp [skipLines, skipped, lineBreak?, begins.lineBreak]

private theorem skipLines_bracket : skipLines fuel (']' :: rest) = ']' :: rest := by
  cases fuel <;> rfl

private theorem skipLines_comma : skipLines fuel (',' :: rest) = ',' :: rest := by
  cases fuel <;> rfl

/-- The end of a line and the blanks that begin the next one are skipped. -/
theorem skipLines_indented (begins : Begins c) :
    skipLines (fuel + 2) ('\n' :: (List.replicate 4 ' ' ++ c :: cs)) = c :: cs := by
  have blank : ∀ space ∈ List.replicate 4 ' ', isBlank space = true := by
    simp [isBlank]
  have skipped : skipComment (skipBlanks (List.replicate 4 ' ' ++ c :: cs)) = c :: cs := by
    rw [skipBlanks, List.dropWhile_append_of_pos blank]
    simp [begins.blank, skipComment, begins.comment]
  have broken : skipLines (fuel + 2) ('\n' :: (List.replicate 4 ' ' ++ c :: cs)) =
      skipLines (fuel + 1) (List.replicate 4 ' ' ++ c :: cs) := rfl
  rw [broken, skipLines, skipped]
  simp [lineBreak?, begins.lineBreak]

/-- An item in front of the closing bracket is the last one. -/
theorem items?_last (scalar : IsScalar item) :
    items? depth (fuel + 2) done (inlineValue item ++ ']' :: rest) =
      some ((item :: done).reverse, rest) := by
  obtain ⟨c, tail, written, begins⟩ := inlineValue_eq_cons scalar.isInline
  have value : value? (depth + 1) (fuel + 1) (inlineValue item ++ ']' :: rest) =
      some (item, ']' :: rest) := value?_of_isScalar scalar (.bracket rest)
  rw [items?]
  rw [written, List.cons_append] at value ⊢
  rw [skipLines_of_begins begins]
  split
  · rename_i same
    cases same
    exact absurd rfl begins.bracket
  · simp [value, skipLines_bracket]

/-- An item in front of a comma, on a line of its own, is read, and the others are still to come. -/
theorem items?_arrayLine (scalar : IsScalar item) :
    items? depth (fuel + 2) done ('\n' :: (arrayLine item ++ rest)) =
      items? depth (fuel + 1) (item :: done) ('\n' :: rest) := by
  obtain ⟨c, tail, written, begins⟩ := inlineValue_eq_cons scalar.isInline
  have line : '\n' :: (arrayLine item ++ rest) =
      '\n' :: (List.replicate 4 ' ' ++ (inlineValue item ++ ',' :: '\n' :: rest)) := by
    simp [arrayLine]
  have value : value? (depth + 1) (fuel + 1) (inlineValue item ++ ',' :: '\n' :: rest) =
      some (item, ',' :: '\n' :: rest) := value?_of_isScalar scalar (.comma _)
  rw [line, items?]
  rw [written, List.cons_append] at value ⊢
  have long : ('\n' :: (List.replicate 4 ' ' ++ c :: (tail ++ ',' :: '\n' :: rest))).length =
      (tail ++ ',' :: '\n' :: rest).length + 4 + 2 := by
    simp
  rw [long, skipLines_indented begins]
  split
  · rename_i same
    cases same
    exact absurd rfl begins.bracket
  · simp [value, skipLines_comma]

/-- Items on lines of their own read back, over the bracket behind them. -/
theorem items?_arrayLines (scalars : ∀ item ∈ items, IsScalar item)
    (enough : items.length + 1 < fuel) :
    items? depth fuel done ('\n' :: (arrayLines items ++ ']' :: rest)) =
      some (done.reverse ++ items, rest) := by
  induction items generalizing done fuel with
  | nil =>
    obtain ⟨fuel, rfl⟩ := Nat.exists_eq_succ_of_ne_zero (Nat.ne_zero_of_lt enough)
    have skipped : skipLines ('\n' :: ']' :: rest).length ('\n' :: ']' :: rest) =
        ']' :: rest := rfl
    rw [arrayLines, List.nil_append, items?, skipped]
    simp
  | cons item items ih =>
    obtain ⟨fuel, rfl⟩ : ∃ less, fuel = less + 2 := ⟨fuel - 2, by omega⟩
    have later : items? depth (fuel + 1) (item :: done)
        ('\n' :: (arrayLines items ++ ']' :: rest)) =
          some ((item :: done).reverse ++ items, rest) :=
      ih (fun item member => scalars item (List.mem_cons_of_mem _ member)) (by
        rw [List.length_cons] at enough
        omega)
    rw [arrayLines, List.append_assoc, items?_arrayLine (scalars item List.mem_cons_self), later]
    simp

private theorem length_le_arrayLines (items : List Data) :
    items.length ≤ (arrayLines items).length := by
  induction items with
  | nil => exact Nat.zero_le _
  | cons item items ih =>
    rw [arrayLines, List.length_append, arrayLine]
    simp only [List.length_cons, List.length_append]
    omega

/-- Items read back from how they are written: one of them on the line of the brackets, several on
lines of their own. -/
theorem items?_arrayItems (scalars : ∀ item ∈ items, IsScalar item)
    (enough : (arrayItems items).length < fuel) :
    items? depth fuel [] (arrayItems items ++ rest) = some (items, rest) := by
  cases items with
  | nil =>
    obtain ⟨fuel, rfl⟩ := Nat.exists_eq_succ_of_ne_zero (Nat.ne_zero_of_lt enough)
    rw [arrayItems, items?]
    simp [skipLines_bracket]
  | cons first others =>
    cases others with
    | nil =>
      rw [arrayItems] at enough ⊢
      have scalar := scalars first List.mem_cons_self
      obtain ⟨c, tail, written, _⟩ := inlineValue_eq_cons scalar.isInline
      simp only [written, List.length_append, List.length_cons] at enough
      obtain ⟨fuel, rfl⟩ : ∃ less, fuel = less + 2 := ⟨fuel - 2, by omega⟩
      have last : items? depth (fuel + 2) [] (inlineValue first ++ ']' :: rest) =
          some ([first], rest) := items?_last scalar
      simpa using last
    | cons second items =>
      have lines : arrayItems (first :: second :: items) ++ rest =
          '\n' :: (arrayLines (first :: second :: items) ++ ']' :: rest) := by
        simp [arrayItems, arrayLines]
      rw [lines]
      refine items?_arrayLines scalars ?_
      have long := length_le_arrayLines (first :: second :: items)
      simp only [arrayItems, arrayLines, List.length_append, List.length_cons] at enough long ⊢
      omega

/-- A value as it is read: the end of a list may be left unread. -/
def opened : Data → Data
  | .list items => .openList items
  | data => data

/-- A value reads back in front of whatever ends it. -/
theorem value?_inlineValue (isInline : IsInline data) (ends : EndsValue rest)
    (enough : (inlineValue data).length < fuel) :
    value? 1 fuel (inlineValue data ++ rest) = some (opened data, rest) := by
  obtain ⟨fuel, rfl⟩ := Nat.exists_eq_succ_of_ne_zero (Nat.ne_zero_of_lt enough)
  cases data with
  | list items =>
    have shallow : ¬ nestingLimit < 1 := by decide
    rw [inlineValue, List.length_cons] at enough
    have read : items? 1 fuel [] (arrayItems items ++ rest) = some (items, rest) :=
      items?_arrayItems isInline (Nat.lt_of_succ_lt_succ enough)
    rw [inlineValue, List.cons_append, value?, if_neg shallow, read]
    rfl
  | bool value => exact value?_of_isScalar isInline ends
  | natural value => exact value?_of_isScalar isInline ends
  | text value => exact value?_of_isScalar isInline ends
  | _ => cases isInline

end StepGraph.Toml
