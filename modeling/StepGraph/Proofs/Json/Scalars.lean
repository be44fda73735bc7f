import StepGraph.Json.Parser
import StepGraph.Json.Printer

/-! Numbers and texts in JSON. Decimal digits read back as the number they were
written for, wherever the text goes on with something that cannot belong to a
number; a quoted text reads back as itself, whatever characters it holds. -/
namespace StepGraph

/-- A word of characters of one kind is taken up to what follows it, and no further. -/
theorem takeWhile_word {kind : Char → Bool} {word rest : List Char}
    (inside : ∀ c ∈ word, kind c = true) (ends : ∀ c, rest.head? = some c → kind c = false) :
    (word ++ rest).takeWhile kind = word := by
  rw [List.takeWhile_append_of_pos inside]
  cases rest with
  | nil => simp
  | cons c rest => simp [ends c rfl]

theorem dropWhile_word {kind : Char → Bool} {word rest : List Char}
    (inside : ∀ c ∈ word, kind c = true) (ends : ∀ c, rest.head? = some c → kind c = false) :
    (word ++ rest).dropWhile kind = rest := by
  rw [List.dropWhile_append_of_pos inside]
  cases rest with
  | nil => rfl
  | cons c rest => simp [ends c rfl]

namespace Text.Decimal

private theorem isDigit_digitChar {digit : Nat} (small : digit < 10) :
    isDigit (digitChar digit) = true := by
  rw [isDigit, digitValue?_digitChar small]
  rfl

theorem isDigit_of_mem_digits {n : Nat} {c : Char} (member : c ∈ digits n) : isDigit c = true := by
  induction n using Nat.strongRecOn with
  | _ n ih =>
    rw [digits] at member
    split at member
    · rename_i small
      exact List.mem_singleton.mp member ▸ isDigit_digitChar small
    · rename_i large
      rcases List.mem_append.mp member with front | last
      · exact ih (n / 10) (by omega) front
      · exact List.mem_singleton.mp last ▸ isDigit_digitChar (Nat.mod_lt _ (by decide))

/-- A number behind something that is no digit can be told from a text, and so can the rest. -/
theorem eq_of_numbered {front other : List Char} {c : Char} {n m : Nat}
    (mark : isDigit c = false) (same : front ++ c :: digits n = other ++ c :: digits m) :
    front = other ∧ n = m := by
  have inside (k : Nat) : ∀ d ∈ (digits k).reverse, isDigit d = true :=
    fun d member => isDigit_of_mem_digits (List.mem_reverse.mp member)
  have ends (rest : List Char) : ∀ d, (c :: rest).head? = some d → isDigit d = false := by
    rintro d ⟨⟩
    exact mark
  have backwards : (digits n).reverse ++ c :: front.reverse =
      (digits m).reverse ++ c :: other.reverse := by
    simpa using congrArg List.reverse same
  have numbers := congrArg (List.takeWhile isDigit) backwards
  have fronts := congrArg (List.dropWhile isDigit) backwards
  rw [takeWhile_word (inside n) (ends _), takeWhile_word (inside m) (ends _)] at numbers
  rw [dropWhile_word (inside n) (ends _), dropWhile_word (inside m) (ends _)] at fronts
  refine ⟨List.reverse_inj.mp (List.cons.inj fronts).2, ?_⟩
  rw [← value_digits n, List.reverse_inj.mp numbers, value_digits]

/-- Digits do not begin with a zero, unless they are that zero. -/
theorem digits_eq_cons (n : Nat) :
    ∃ first rest, digits n = first :: rest ∧ (first = '0' → n = 0 ∧ rest = []) := by
  induction n using Nat.strongRecOn with
  | _ n ih =>
    rw [digits]
    split
    · rename_i small
      refine ⟨digitChar n, [], rfl, fun zero => ⟨?_, rfl⟩⟩
      have same := digitValue?_digitChar small
      rw [zero] at same
      exact (Option.some.inj same).symm
    · rename_i large
      obtain ⟨first, rest, split, leading⟩ := ih (n / 10) (by omega)
      refine ⟨first, rest ++ [digitChar (n % 10)], by rw [split]; rfl, fun zero => ?_⟩
      have none := (leading zero).1
      omega

end Text.Decimal

namespace Text

/-- Rounding to a double does not more than double a number. -/
theorem nearestDouble_le (n : Nat) : nearestDouble n ≤ 2 * n + 1 := by
  unfold nearestDouble
  simp only [Nat.shiftLeft_eq, Nat.one_mul]
  have unit_le : 2 ^ (n.log2 + 1 - 53) ≤ n + 1 := by
    by_cases zero : n = 0
    · subst zero
      decide
    · calc 2 ^ (n.log2 + 1 - 53) ≤ 2 ^ n.log2 := Nat.pow_le_pow_right (by decide) (by omega)
        _ ≤ n := Nat.log2_self_le zero
        _ ≤ n + 1 := Nat.le_succ n
  generalize 2 ^ (n.log2 + 1 - 53) = unit at unit_le ⊢
  have below : n / unit * unit ≤ n := Nat.div_mul_le_self n unit
  split
  · rw [Nat.add_mul, Nat.one_mul]
    omega
  · omega

private theorem isProductInFloatRange_zero {n : Nat} (small : n < Data.wordBound) :
    isProductInFloatRange n 0 = true := by
  unfold isProductInFloatRange
  split
  · rfl
  · have one : nearestDouble (Nat.pow 10 (Int.natAbs 0)) = 1 := by decide
    have bound : 2 * Data.wordBound + 1 < floatBound := by decide
    have rounded := nearestDouble_le n
    simp only [one, Nat.mul_one]
    rw [if_neg (by decide)]
    exact decide_eq_true (by omega)

end Text

namespace Json

/-- Where a value may end: the text is over, or goes on with a blank, a comma or a
closing bracket. -/
def Ends (rest : List Char) : Prop :=
  ∀ c, rest.head? = some c → isBlank c = true ∨ c = ',' ∨ c = ']' ∨ c = '}'

theorem isBlank_of_isDigit {c : Char} (digit : Text.Decimal.isDigit c = true) :
    isBlank c = false := by
  cases blank : isBlank c with
  | false => rfl
  | true =>
    simp only [isBlank, Bool.or_eq_true, beq_iff_eq] at blank
    rcases blank with ((rfl | rfl) | rfl) | rfl <;> exact absurd digit (by decide)

/-- None of the characters with which a value may end belongs to a number. -/
theorem Ends.head {c : Char} {rest : List Char} (ends : Ends (c :: rest)) :
    Text.Decimal.isDigit c = false ∧ c ≠ '.' ∧ c ≠ 'e' ∧ c ≠ 'E' := by
  rcases ends c rfl with blank | rfl | rfl | rfl
  · simp only [isBlank, Bool.or_eq_true, beq_iff_eq] at blank
    rcases blank with ((rfl | rfl) | rfl) | rfl <;> decide
  · decide
  · decide
  · decide

private theorem digits_append {n : Nat} {rest : List Char} (ends : Ends rest) :
    digits (Text.Decimal.digits n ++ rest) = (Text.Decimal.digits n, rest) := by
  have all : ∀ c ∈ Text.Decimal.digits n, Text.Decimal.isDigit c = true := fun _ member =>
    Text.Decimal.isDigit_of_mem_digits member
  have none : ∀ c, rest.head? = some c → Text.Decimal.isDigit c = false := by
    intro c first
    obtain ⟨tail, rfl⟩ := List.head?_eq_some_iff.mp first
    exact ends.head.1
  rw [digits, takeWhile_word all none, dropWhile_word all none]

private theorem whole?_digits {n : Nat} {rest : List Char} (ends : Ends rest) :
    whole? (Text.Decimal.digits n ++ rest) = some (Text.Decimal.digits n, rest) := by
  obtain ⟨first, others, split, leading⟩ := Text.Decimal.digits_eq_cons n
  rw [whole?, digits_append ends, split]
  by_cases zero : first = '0'
  · obtain ⟨_, rfl⟩ := leading zero
    subst zero
    rfl
  · simp [zero]

/-- Reading digits only ever makes a number larger. -/
theorem le_foldl_digits (cs : List Char) (start : Nat) :
    start ≤ cs.foldl (fun total c => total * 10 + (Text.Decimal.digitValue? c).getD 0) start := by
  induction cs generalizing start with
  | nil => exact Nat.le_refl _
  | cons c rest ih =>
    have grown : start ≤ start * 10 + (Text.Decimal.digitValue? c).getD 0 := by omega
    exact Nat.le_trans grown (ih _)

/-- The digits of a number below the bound all fit into the significand. -/
theorem addDigits_of_lt (cs : List Char) (start : Nat)
    (small : cs.foldl (fun total c => total * 10 + (Text.Decimal.digitValue? c).getD 0) start <
      Data.wordBound) :
    addDigits start cs =
      (cs.foldl (fun total c => total * 10 + (Text.Decimal.digitValue? c).getD 0) start, []) := by
  induction cs generalizing start with
  | nil => rfl
  | cons c rest ih =>
    rw [List.foldl_cons] at small
    have fits := Nat.lt_of_le_of_lt (le_foldl_digits rest _) small
    simp only [addDigits, fits, ↓reduceIte]
    rw [ih _ small, List.foldl_cons]

private theorem numberValue_digits {n : Nat} (small : n < Data.wordBound) :
    numberValue false (Text.Decimal.digits n) none none = .natural n := by
  have value := Text.Decimal.value_digits n
  have added : addDigits 0 (Text.Decimal.digits n) = (n, []) := by
    rw [addDigits_of_lt _ _ (by rwa [← Text.Decimal.value, value]), ← Text.Decimal.value, value]
  have range := Text.isProductInFloatRange_zero small
  simp [numberValue, added, addDigits, range, value]

/-- A number reads back from its digits. -/
theorem number?_digits {n : Nat} {rest : List Char} (small : n < Data.wordBound)
    (ends : Ends rest) : number? (Text.Decimal.digits n ++ rest) = some (.natural n, rest) := by
  obtain ⟨first, others, split, _⟩ := Text.Decimal.digits_eq_cons n
  have unsigned : first ≠ '-' := by
    rintro rfl
    have digit := Text.Decimal.isDigit_of_mem_digits (split ▸ List.mem_cons_self)
    exact absurd digit (by decide)
  have unfractioned : fraction? rest = some (none, rest) := by
    cases rest with
    | nil => rfl
    | cons c rest =>
      unfold fraction?
      split
      · rename_i same
        cases same
        exact absurd rfl ends.head.2.1
      · rfl
  have unexponented : exponent? rest = some (none, rest) := by
    cases rest with
    | nil => rfl
    | cons c rest => simp [exponent?, ends.head.2.2.1, ends.head.2.2.2]
  have whole := whole?_digits (n := n) ends
  have value := numberValue_digits small
  rw [split] at whole value ⊢
  rw [List.cons_append] at whole ⊢
  simp [number?, unsigned, whole, unfractioned, unexponented, value]

/-- The two digits of a control character name it. -/
theorem number?_lowerDigits {n : Nat} (control : n < 0x20) :
    Text.Hex.number? ['0', '0', Text.Hex.lowerDigit (n / 16), Text.Hex.lowerDigit (n % 16)] =
      some n := by
  revert n
  decide

/-- What is written for a character reads back as that character. -/
theorem textBody?_escape (c : Char) (before tail : List Char) :
    textBody? (.characters before) (escape c ++ tail) =
      textBody? (.characters (c :: before)) tail := by
  unfold escape
  -- Seven characters have an escape of one letter.
  iterate 7
    split
    · rename_i same
      subst same
      rfl
  split
  · rename_i control
    have below : ¬ (0xD800 ≤ c.toNat ∧ c.toNat < 0xDC00) := by omega
    have above : ¬ (0xDC00 ≤ c.toNat ∧ c.toNat < 0xE000) := by omega
    simp [textBody?, number?_lowerDigits control, Spelling.addUnit, below, above]
  · rename_i backslash _ _ _ _ _ printable
    simp [textBody?, Spelling.add, backslash, printable]

/-- The characters of a text read back up to the closing mark. -/
theorem textBody?_escapes (cs before rest : List Char) :
    textBody? (.characters before) (cs.flatMap escape ++ '"' :: rest) =
      some (some (String.ofList (before.reverse ++ cs)), rest) := by
  induction cs generalizing before with
  | nil => simp [textBody?, Spelling.text?]
  | cons c cs ih =>
    rw [List.flatMap_cons, List.append_assoc, textBody?_escape, ih]
    simp

/-- A quoted text reads back as itself, behind its first mark. -/
theorem textBody?_quote (text : String) (rest : List Char) :
    textBody? (.characters []) (text.toList.flatMap escape ++ '"' :: rest) =
      some (some text, rest) := by
  rw [textBody?_escapes, List.reverse_nil, List.nil_append, String.ofList_toList]

end Json
end StepGraph
