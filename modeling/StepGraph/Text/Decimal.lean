/-! Natural numbers in decimal. `digits` writes the fewest digits and `value`
reads any run of digits back; the two are inverse on what `digits` writes. -/
namespace StepGraph.Text.Decimal

/-- The character of a digit below ten. -/
def digitChar (digit : Nat) : Char := Char.ofNat (48 + digit)

/-- The value of a digit character. -/
def digitValue? (c : Char) : Option Nat :=
  if 48 ≤ c.toNat ∧ c.toNat ≤ 57 then some (c.toNat - 48) else none

/-- Whether a character is one of the ten ASCII digits. -/
def isDigit (c : Char) : Bool := (digitValue? c).isSome

/-- The decimal digits of a number, without leading zeros; zero is one digit. -/
def digits (n : Nat) : List Char :=
  if n < 10 then [digitChar n] else digits (n / 10) ++ [digitChar (n % 10)]

/-- The number that a run of digits denotes; leading zeros are allowed and any
other character counts as zero. -/
def value (cs : List Char) : Nat :=
  cs.foldl (fun total c => total * 10 + (digitValue? c).getD 0) 0

/-- A number as decimal text. -/
def text (n : Nat) : String := String.ofList (digits n)

theorem digitValue?_digitChar {digit : Nat} (small : digit < 10) :
    digitValue? (digitChar digit) = some digit := by
  have all : ∀ d ∈ List.range 10, digitValue? (digitChar d) = some d := by decide
  exact all digit (List.mem_range.mpr small)

theorem value_append_digit (cs : List Char) {digit : Nat} (small : digit < 10) :
    value (cs ++ [digitChar digit]) = value cs * 10 + digit := by
  simp [value, List.foldl_append, digitValue?_digitChar small]

/-- Reading what was written gives the number back. -/
theorem value_digits (n : Nat) : value (digits n) = n := by
  induction n using Nat.strongRecOn with
  | _ n ih =>
    rw [digits]
    split
    · simp [value, digitValue?_digitChar (by assumption)]
    · rename_i large
      rw [value_append_digit _ (Nat.mod_lt _ (by decide)), ih (n / 10) (by omega)]
      omega

end StepGraph.Text.Decimal
