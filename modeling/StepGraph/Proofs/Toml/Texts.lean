import Mathlib.Data.List.TakeWhile
import StepGraph.Toml.Parser
import StepGraph.Toml.Printer

/-! Texts in TOML. Whichever marks the writer chooses for a text, the reader finds the text
between them again. Marks without escapes are only chosen for texts that can stand between them as
they are, and inside three marks no more than two of the same kind stand in a row, so that the
first three in a row end the text, together with those of its own right before them. -/
namespace StepGraph.Toml

variable {cs done rest : List Char} {c mark : Char} {fuel run allowed : Nat} {lines : Bool}

theorem isPlain_of_not_needsCode (uncoded : needsCode c = false) (within : c ≠ '\n') :
    isPlain c = true := by
  simp only [needsCode, Bool.or_eq_false_iff, Bool.and_eq_false_iff, decide_eq_false_iff_not,
    bne_eq_false_iff_eq, beq_eq_false_iff_ne] at uncoded
  simp only [isPlain, Bool.or_eq_true, beq_iff_eq, decide_eq_true_eq, Bool.and_eq_true]
  rcases uncoded.1 with (large | tab) | broken
  · exact Or.inr ⟨by omega, uncoded.2⟩
  · exact Or.inl tab
  · exact absurd broken within

/-- The digits of a code name the character. -/
theorem number?_upperDigits {n : Nat} (small : n < 128) :
    Text.Hex.number? ['0', '0', Text.Hex.upperDigit (n / 16), Text.Hex.upperDigit (n % 16)] =
      some n := by
  revert n
  decide

private theorem lt_of_needsCode (coded : needsCode c = true) : c.toNat < 128 := by
  simp only [needsCode, Bool.or_eq_true, Bool.and_eq_true, decide_eq_true_eq, beq_iff_eq] at coded
  rcases coded with ⟨⟨small, _⟩, _⟩ | delete
  · omega
  · omega

private theorem unescape?_codeEscape (coded : needsCode c = true) :
    unescape? ('u' :: '0' :: '0' :: Text.Hex.upperDigit (c.toNat / 16) ::
      Text.Hex.upperDigit (c.toNat % 16) :: rest) = some (c, rest) := by
  have small := lt_of_needsCode coded
  have number := number?_upperDigits small
  have valid : c.toNat < 0xD800 := by omega
  simp [unescape?, unescape?.coded?, number, character?, valid]

/-- What is written in place of a character begins with a backslash, and stands for that
character; it folds no line. -/
theorem unescape?_of_escape? {escaped : List Char} (written : escape? lines c = some escaped) :
    ∃ tail, escaped = '\\' :: tail ∧
      ∀ rest, foldedLine? (tail ++ rest) = none ∧ unescape? (tail ++ rest) = some (c, rest) := by
  unfold escape? at written
  -- Six characters have an escape of one letter, unless the line break stands as it is.
  iterate 3
    split at written
    · rename_i same
      cases written
      subst same
      exact ⟨_, rfl, fun _ => ⟨rfl, rfl⟩⟩
  split at written
  · rename_i same
    split at written
    · cases written
    · cases written
      subst same
      exact ⟨_, rfl, fun _ => ⟨rfl, rfl⟩⟩
  iterate 2
    split at written
    · rename_i same
      cases written
      subst same
      exact ⟨_, rfl, fun _ => ⟨rfl, rfl⟩⟩
  split at written
  · rename_i coded
    cases written
    exact ⟨_, rfl, fun _ => ⟨rfl, unescape?_codeEscape coded⟩⟩
  · cases written

/-- What is written as it is may stand as it is. -/
theorem plain_of_escape?_eq_none (unescaped : escape? lines c = none) :
    c ≠ '\\' ∧ (isPlain c || lines && c == '\n') = true := by
  unfold escape? at unescaped
  iterate 3
    split at unescaped
    · cases unescaped
  rename_i backslash _ _
  refine ⟨backslash, ?_⟩
  by_cases broken : c = '\n'
  · cases lines with
    | true => simp [broken]
    | false => simp [broken] at unescaped
  · rw [if_neg broken] at unescaped
    iterate 2
      split at unescaped
      · cases unescaped
    split at unescaped
    · cases unescaped
    · rename_i uncoded
      rw [isPlain_of_not_needsCode (by simpa using uncoded) broken, Bool.true_or]

private theorem basicText?_plain (plain : isPlain c = true) (quote : c ≠ '"')
    (backslash : c ≠ '\\') :
    basicText? done (fuel + 1) (c :: rest) = basicText? (c :: done) fuel rest := by
  simp [basicText?, plain]

/-- A text between quotation marks reads back. -/
theorem basicText?_escapeText (done : List Char) (fuel run : Nat)
    (enough : (escapeText false 0 run cs).length < fuel) :
    basicText? done fuel (escapeText false 0 run cs ++ '"' :: rest) =
      some (done.reverse ++ cs, rest) := by
  induction cs generalizing done fuel run with
  | nil =>
    obtain ⟨fuel, rfl⟩ := Nat.exists_eq_succ_of_ne_zero (Nat.ne_zero_of_lt enough)
    simp [escapeText, basicText?]
  | cons c cs ih =>
    obtain ⟨fuel, rfl⟩ := Nat.exists_eq_succ_of_ne_zero (Nat.ne_zero_of_lt enough)
    rw [escapeText] at enough ⊢
    by_cases quote : c = '"'
    · subst quote
      simp only [↓reduceIte, Nat.zero_le, List.length_cons] at enough ⊢
      have later := ih ('"' :: done) fuel 0 (by omega)
      simpa [basicText?, unescape?] using later
    · simp only [quote, ↓reduceIte] at enough ⊢
      cases written : escape? false c with
      | some escaped =>
        obtain ⟨tail, rfl, reads⟩ := unescape?_of_escape? written
        simp only [written, List.length_append, List.length_cons] at enough
        have later := ih (c :: done) fuel 0 (by omega)
        simpa [basicText?, (reads _).2] using later
      | none =>
        obtain ⟨backslash, plain⟩ := plain_of_escape?_eq_none written
        simp only [written, List.length_cons] at enough
        have later := ih (c :: done) fuel 0 (by omega)
        simp only [List.cons_append]
        rw [basicText?_plain (by simpa using plain) quote backslash, later]
        simp

/-- A text between apostrophes reads back. -/
theorem literalText?_append (done : List Char)
    (plain : ∀ c ∈ cs, isPlain c = true ∧ c ≠ '\'') :
    literalText? done (cs ++ '\'' :: rest) = some (done.reverse ++ cs, rest) := by
  induction cs generalizing done with
  | nil => simp [literalText?]
  | cons c cs ih =>
    obtain ⟨visible, inside⟩ := plain c List.mem_cons_self
    have later := ih (c :: done) fun c member => plain c (List.mem_cons_of_mem _ member)
    simp [literalText?, visible, later]

/-! ## Several lines -/

/-- The marks with which a text begins. -/
def leading (mark : Char) (cs : List Char) : List Char := cs.takeWhile (· == mark)

/-- Three marks close a text, with those right before them that are all that is left of it. -/
theorem closing?_append (short : (leading mark cs).length ≤ 2) (ends : rest.head? ≠ some mark) :
    closing? mark (cs ++ mark :: mark :: mark :: rest) =
      if cs.all (· == mark) then some (cs, rest) else none := by
  have stop : rest.takeWhile (· == mark) = [] := by
    cases rest with
    | nil => rfl
    | cons c rest =>
      have differs : c ≠ mark := by simpa using ends
      simp [differs]
  unfold leading at short
  by_cases all : cs.all (· == mark) = true
  · have same : cs = List.replicate cs.length mark :=
      List.eq_replicate_of_mem fun c member => by simpa using List.all_eq_true.mp all c member
    have front : cs.takeWhile (· == mark) = cs := by
      rw [List.takeWhile_eq_self_iff]
      exact List.all_eq_true.mp all
    rw [front] at short
    have count : (cs ++ mark :: mark :: mark :: rest).takeWhile (· == mark) =
        cs ++ [mark, mark, mark] := by
      simp [List.takeWhile_append, front, stop]
    have inside : min cs.length 2 = cs.length := by omega
    simp [closing?, count, all, inside, ← same]
  · have front : (cs.takeWhile (· == mark)).length ≠ cs.length := by
      intro whole
      have prefixed := List.takeWhile_prefix (l := cs) (· == mark)
      have same := prefixed.eq_of_length whole
      exact all (List.all_eq_true.mpr (List.takeWhile_eq_self_iff.mp same))
    have count : (cs ++ mark :: mark :: mark :: rest).takeWhile (· == mark) =
        cs.takeWhile (· == mark) := by
      rw [List.takeWhile_append, if_neg front]
    have few : (cs.takeWhile (· == mark)).length < 3 := by omega
    simp [closing?, count, few, all]

/-- Nowhere in a text do more than so many marks stand in a row. -/
def ShortRuns (mark : Char) (limit : Nat) : List Char → Prop
  | [] => True
  | c :: rest => (leading mark (c :: rest)).length ≤ limit ∧ ShortRuns mark limit rest

private theorem ShortRuns.leading_le {limit : Nat} (short : ShortRuns mark limit cs) :
    (leading mark cs).length ≤ limit := by
  cases cs with
  | nil => exact Nat.zero_le _
  | cons c cs => exact short.1

/-- The longest run is counted from the runs that are behind and the one that goes on. -/
theorem shortRuns_of_foldl {limit longest run : Nat} (counted : run ≤ longest)
    (short : (cs.foldl (fun (longest, run) c =>
      if c = mark then (max longest (run + 1), run + 1) else (longest, 0)) (longest, run)).1 ≤
        limit) :
    longest ≤ limit ∧ run + (leading mark cs).length ≤ limit ∧ ShortRuns mark limit cs := by
  induction cs generalizing longest run with
  | nil => exact ⟨short, Nat.le_trans counted short, trivial⟩
  | cons c cs ih =>
    simp only [List.foldl_cons] at short
    by_cases marked : c = mark
    · subst marked
      rw [if_pos rfl] at short
      obtain ⟨within, goesOn, later⟩ := ih (Nat.le_max_right _ _) short
      have front : (leading c (c :: cs)).length = (leading c cs).length + 1 := by simp [leading]
      exact ⟨by omega, by omega, by omega, later⟩
    · rw [if_neg marked] at short
      obtain ⟨within, _, later⟩ := ih (Nat.zero_le _) short
      have front : (leading mark (c :: cs)).length = 0 := by simp [leading, marked]
      exact ⟨within, by omega, by omega, later⟩

private theorem shortRuns_of_longestRun {limit : Nat} (short : longestRun mark cs ≤ limit) :
    ShortRuns mark limit cs :=
  (shortRuns_of_foldl (Nat.le_refl 0) short).2.2

theorem not_mem_of_longestRun (none : longestRun mark cs = 0) : mark ∉ cs := by
  have short := shortRuns_of_longestRun (Nat.le_of_eq none)
  clear none
  induction cs with
  | nil => nofun
  | cons c cs ih =>
    have front : (leading mark (c :: cs)).length = 0 := Nat.le_zero.mp short.1
    rintro (_ | ⟨_, later⟩)
    · simp [leading] at front
    · exact ih short.2 later

/-- A text between three apostrophes reads back. -/
theorem literalLines?_append (done : List Char) (fuel : Nat) (short : ShortRuns '\'' 2 cs)
    (plain : ∀ c ∈ cs, (isPlain c || c == '\n') = true) (ends : rest.head? ≠ some '\'')
    (enough : cs.length < fuel) :
    literalLines? done fuel (cs ++ '\'' :: '\'' :: '\'' :: rest) =
      some (done.reverse ++ cs, rest) := by
  induction cs generalizing done fuel with
  | nil =>
    obtain ⟨fuel, rfl⟩ := Nat.exists_eq_succ_of_ne_zero (Nat.ne_zero_of_lt enough)
    unfold literalLines?
    rw [closing?_append short.leading_le ends]
    rfl
  | cons c cs ih =>
    obtain ⟨fuel, rfl⟩ := Nat.exists_eq_succ_of_ne_zero (Nat.ne_zero_of_lt enough)
    unfold literalLines?
    rw [closing?_append short.leading_le ends]
    by_cases all : (c :: cs).all (· == '\'') = true
    · simp only [all, ↓reduceIte]
    · have visible := plain c List.mem_cons_self
      have noReturn : c ≠ '\r' := by
        rintro rfl
        exact absurd visible (by decide)
      have later := ih (c :: done) fuel short.2
        (fun c member => plain c (List.mem_cons_of_mem _ member))
        (by simpa using enough)
      simp [all, visible, noReturn, later]

/-- At most two quotation marks begin what is written, less those that stand before it. -/
theorem leading_escapeText (cs : List Char) {run : Nat} (within : run ≤ 2) :
    (leading '"' (escapeText true 2 run cs)).length + run ≤ 2 := by
  induction cs generalizing run with
  | nil => simpa [escapeText, leading] using within
  | cons c cs ih =>
    rw [escapeText]
    by_cases quote : c = '"'
    · by_cases full : 2 ≤ run
      · simpa [quote, full, leading] using within
      · have later := ih (by omega : run + 1 ≤ 2)
        simp only [quote, full, ↓reduceIte, leading, List.takeWhile_cons, beq_self_eq_true,
          List.length_cons] at later ⊢
        omega
    · cases written : escape? true c with
      | some escaped =>
        obtain ⟨tail, rfl, _⟩ := unescape?_of_escape? written
        simpa [quote, leading] using within
      | none => simpa [quote, leading] using within

/-- What is written with nothing but quotation marks is written as it is. -/
theorem escapeText_of_all (all : (escapeText true 2 run cs).all (· == '"') = true) :
    escapeText true 2 run cs = cs := by
  induction cs generalizing run with
  | nil => rfl
  | cons c cs ih =>
    rw [escapeText] at all ⊢
    by_cases quote : c = '"'
    · by_cases full : 2 ≤ run
      · simp [quote, full] at all
      · simp only [quote, full, ↓reduceIte, List.all_cons, beq_self_eq_true, Bool.true_and]
          at all ⊢
        rw [ih all]
    · cases written : escape? true c with
      | some escaped =>
        obtain ⟨tail, rfl, _⟩ := unescape?_of_escape? written
        simp [quote, written] at all
      | none => simp [quote, written] at all

/-- A text between three quotation marks reads back. -/
theorem basicLines?_escapeText (done : List Char) (fuel run : Nat) (within : run ≤ 2)
    (ends : rest.head? ≠ some '"') (enough : (escapeText true 2 run cs).length < fuel) :
    basicLines? done fuel (escapeText true 2 run cs ++ '"' :: '"' :: '"' :: rest) =
      some (done.reverse ++ cs, rest) := by
  induction cs generalizing done fuel run with
  | nil =>
    obtain ⟨fuel, rfl⟩ := Nat.exists_eq_succ_of_ne_zero (Nat.ne_zero_of_lt enough)
    have front := leading_escapeText [] within
    unfold basicLines?
    rw [closing?_append (by omega) ends]
    rfl
  | cons c cs ih =>
    obtain ⟨fuel, rfl⟩ := Nat.exists_eq_succ_of_ne_zero (Nat.ne_zero_of_lt enough)
    have front := leading_escapeText (c :: cs) within
    unfold basicLines?
    rw [closing?_append (by omega) ends]
    by_cases all : (escapeText true 2 run (c :: cs)).all (· == '"') = true
    · rw [if_pos all, escapeText_of_all all]
    · simp only [all, Bool.false_eq_true, ↓reduceIte]
      rw [escapeText] at enough ⊢
      by_cases quote : c = '"'
      · subst quote
        by_cases full : 2 ≤ run
        · simp only [full, ↓reduceIte, List.length_cons] at enough ⊢
          have later := ih ('"' :: done) fuel 0 (by omega) (by omega)
          simpa [foldedLine?, skipBlanks, isBlank, lineBreak?, unescape?] using later
        · simp only [full, ↓reduceIte, List.length_cons] at enough ⊢
          have later := ih ('"' :: done) fuel (run + 1) (by omega) (by omega)
          simpa [isPlain] using later
      · simp only [quote, ↓reduceIte] at enough ⊢
        cases written : escape? true c with
        | some escaped =>
          obtain ⟨tail, rfl, reads⟩ := unescape?_of_escape? written
          simp only [written, List.length_append, List.length_cons] at enough
          have later := ih (c :: done) fuel 0 (by omega) (by omega)
          simpa [reads] using later
        | none =>
          obtain ⟨backslash, plain⟩ := plain_of_escape?_eq_none written
          simp only [written, List.length_cons] at enough
          have later := ih (c :: done) fuel 0 (by omega) (by omega)
          have noReturn : c ≠ '\r' := by
            rintro rfl
            exact absurd plain (by decide)
          simp only [Bool.true_and] at plain
          simp [noReturn, plain, later]

/-! ## Any marks -/

private theorem skipFirstBreak_of_head (within : ∀ c, cs.head? = some c → c ≠ '\n' ∧ c ≠ '\r') :
    skipFirstBreak cs = cs := by
  cases cs with
  | nil => rfl
  | cons c cs =>
    obtain ⟨broken, returned⟩ := within c rfl
    simp [skipFirstBreak, lineBreak?, broken, returned]

/-- The line break behind the opening marks is no part of a text. -/
theorem skipFirstBreak_openingBreak {written : List Char}
    (within : '\n' ∉ cs → ∀ c, written.head? = some c → c ≠ '\n' ∧ c ≠ '\r') :
    skipFirstBreak (openingBreak cs ++ written) = written := by
  unfold openingBreak
  by_cases lines : '\n' ∈ cs
  · simp [lines, skipFirstBreak, lineBreak?]
  · simpa [lines] using skipFirstBreak_of_head (within lines)

/-- The first character that is written for a text. -/
theorem head?_escapeText {limit : Nat} {first : Char}
    (begins : (escapeText lines limit 0 cs).head? = some first) :
    first = '\\' ∨ cs.head? = some first ∧ (first = '"' → 0 < limit) ∧
      escape? lines first = none := by
  cases cs with
  | nil => cases begins
  | cons c cs =>
    rw [escapeText] at begins
    by_cases quote : c = '"'
    · subst quote
      by_cases full : limit ≤ 0
      · simp only [full, ↓reduceIte, List.head?_cons, Option.some.injEq] at begins
        exact Or.inl begins.symm
      · simp only [full, ↓reduceIte, List.head?_cons, Option.some.injEq] at begins
        subst begins
        exact Or.inr ⟨rfl, fun _ => by omega, rfl⟩
    · simp only [quote, ↓reduceIte] at begins
      cases written : escape? lines c with
      | some escaped =>
        obtain ⟨tail, rfl, _⟩ := unescape?_of_escape? written
        simp only [written, List.cons_append, List.head?_cons, Option.some.injEq] at begins
        exact Or.inl begins.symm
      | none =>
        simp only [written, List.head?_cons, Option.some.injEq] at begins
        subst begins
        exact Or.inr ⟨rfl, fun same => absurd same quote, written⟩

/-- One mark that does not begin three of them opens a text on one line. -/
theorem text?_of_quote (single : ∀ tail, cs ≠ '"' :: '"' :: tail) :
    text? ('"' :: cs) = basicText? [] (cs.length + 1) cs := by
  rw [text?]
  exact single

private theorem text?_of_apostrophe (single : ∀ tail, cs ≠ '\'' :: '\'' :: tail) :
    text? ('\'' :: cs) = literalText? [] cs := by
  rw [text?]
  exact single

private theorem text?_basic (cs : List Char) (ends : rest.head? ≠ some '"') :
    text? (Marks.basic.around cs ++ rest) = some (cs, rest) := by
  have single (tail : List Char) : escapeText false 0 0 cs ++ '"' :: rest ≠ '"' :: '"' :: tail := by
    intro double
    cases written : escapeText false 0 0 cs with
    | nil =>
      rw [written, List.nil_append, List.cons.injEq] at double
      rw [double.2] at ends
      exact ends rfl
    | cons first others =>
      rw [written, List.cons_append, List.cons.injEq] at double
      rcases head?_escapeText (by rw [written]; rfl) with backslash | ⟨_, quote, _⟩
      · exact absurd (backslash.symm.trans double.1) (by decide)
      · exact absurd (quote double.1) (by decide)
  have around : Marks.basic.around cs ++ rest =
      '"' :: (escapeText false 0 0 cs ++ '"' :: rest) := by simp [Marks.around]
  rw [around, text?_of_quote single, basicText?_escapeText]
  · rfl
  · rw [List.length_append]
    omega

private theorem text?_literal (present : cs ≠ []) (plain : ∀ c ∈ cs, isPlain c = true ∧ c ≠ '\'') :
    text? (Marks.literal.around cs ++ rest) = some (cs, rest) := by
  have single (tail : List Char) : cs ++ '\'' :: rest ≠ '\'' :: '\'' :: tail := by
    intro double
    obtain ⟨first, others, rfl⟩ := List.exists_cons_of_ne_nil present
    rw [List.cons_append, List.cons.injEq] at double
    exact (plain first List.mem_cons_self).2 double.1
  have around : Marks.literal.around cs ++ rest = '\'' :: (cs ++ '\'' :: rest) := by
    simp [Marks.around]
  rw [around, text?_of_apostrophe single, literalText?_append [] plain]
  rfl

private theorem text?_basicLines (cs : List Char) (ends : rest.head? ≠ some '"') :
    text? (Marks.basicLines.around cs ++ rest) = some (cs, rest) := by
  have around : Marks.basicLines.around cs ++ rest = '"' :: '"' :: '"' ::
      (openingBreak cs ++ (escapeText true 2 0 cs ++ '"' :: '"' :: '"' :: rest)) := by
    simp [Marks.around]
  have opened :
      skipFirstBreak (openingBreak cs ++ (escapeText true 2 0 cs ++ '"' :: '"' :: '"' :: rest)) =
        escapeText true 2 0 cs ++ '"' :: '"' :: '"' :: rest := by
    refine skipFirstBreak_openingBreak fun single first begins => ?_
    rw [List.head?_append, Option.or_eq_some_iff] at begins
    rcases begins with written | ⟨_, quote⟩
    · rcases head?_escapeText written with rfl | ⟨among, _, unescaped⟩
      · decide
      · refine ⟨?_, ?_⟩
        · rintro rfl
          exact single (List.mem_of_mem_head? among)
        · rintro rfl
          exact absurd unescaped (by decide)
    · cases quote
      decide
  rw [around, text?, opened, basicLines?_escapeText [] _ 0 (Nat.zero_le 2) ends]
  · rfl
  · simp only [List.length_append]
    omega

private theorem text?_literalLines (short : ShortRuns '\'' 2 cs)
    (plain : ∀ c ∈ cs, (isPlain c || c == '\n') = true) (ends : rest.head? ≠ some '\'') :
    text? (Marks.literalLines.around cs ++ rest) = some (cs, rest) := by
  have around : Marks.literalLines.around cs ++ rest =
      '\'' :: '\'' :: '\'' :: (openingBreak cs ++ (cs ++ '\'' :: '\'' :: '\'' :: rest)) := by
    simp [Marks.around]
  have opened : skipFirstBreak (openingBreak cs ++ (cs ++ '\'' :: '\'' :: '\'' :: rest)) =
      cs ++ '\'' :: '\'' :: '\'' :: rest := by
    refine skipFirstBreak_openingBreak fun single first begins => ?_
    rw [List.head?_append, Option.or_eq_some_iff] at begins
    rcases begins with among | ⟨_, quote⟩
    · have member := List.mem_of_mem_head? among
      refine ⟨?_, ?_⟩
      · rintro rfl
        exact single member
      · rintro rfl
        exact absurd (plain _ member) (by decide)
    · cases quote
      decide
  rw [around, text?, opened, literalLines?_append [] _ short plain ends]
  · rfl
  · simp only [List.length_append]
    omega

/-- Where a text may end: what follows begins with no mark. -/
def EndsText (rest : List Char) : Prop := rest.head? ≠ some '"' ∧ rest.head? ≠ some '\''

/-- A text reads back from the marks that were chosen for it. -/
theorem text?_quoteText (text : String) (ends : EndsText rest) :
    text? (quoteText text ++ rest) = some (text.toList, rest) := by
  have uncoded {cs : List Char} (none : cs.any needsCode = false) (c : Char) (member : c ∈ cs) :
      needsCode c = false := by simpa using List.any_eq_false.mp none c member
  unfold quoteText
  generalize text.toList = cs
  simp only [Marks.forText]
  split
  · exact text?_basic cs ends.1
  rename_i notBasic
  split
  · rename_i literal
    simp only [Bool.and_eq_true, Bool.not_eq_true', decide_eq_true_eq] at literal
    obtain ⟨⟨codes, apostrophes⟩, lines⟩ := literal
    refine text?_literal ?_ fun c member => ⟨?_, ?_⟩
    · rintro rfl
      exact notBasic rfl
    · refine isPlain_of_not_needsCode (uncoded codes c member) ?_
      rintro rfl
      simp [member] at lines
    · rintro rfl
      exact not_mem_of_longestRun apostrophes member
  split
  · exact text?_basicLines cs ends.1
  split
  · rename_i literal
    simp only [Bool.and_eq_true, Bool.not_eq_true', decide_eq_true_eq] at literal
    refine text?_literalLines (shortRuns_of_longestRun literal.2) (fun c member => ?_) ends.2
    by_cases broken : c = '\n'
    · simp [broken]
    · rw [isPlain_of_not_needsCode (uncoded literal.1 c member) broken, Bool.true_or]
  split
  · exact text?_basicLines cs ends.1
  · exact text?_basic cs ends.1

end StepGraph.Toml
