/-! Hexadecimal digits, in either case when read and in lower or upper case when
written. -/
namespace StepGraph.Text.Hex

/-- The value of a hexadecimal digit. -/
def value? (c : Char) : Option Nat :=
  if '0' ≤ c ∧ c ≤ '9' then some (c.toNat - 48)
  else if 'a' ≤ c ∧ c ≤ 'f' then some (c.toNat - 87)
  else if 'A' ≤ c ∧ c ≤ 'F' then some (c.toNat - 55)
  else none

/-- The number that hexadecimal digits denote. -/
def number? (cs : List Char) : Option Nat :=
  cs.foldlM (fun total c => (value? c).map (total * 16 + ·)) 0

/-- The lower-case digit of a number below sixteen. -/
def lowerDigit (n : Nat) : Char :=
  if n < 10 then Char.ofNat (48 + n) else Char.ofNat (87 + n)

/-- The upper-case digit of a number below sixteen. -/
def upperDigit (n : Nat) : Char :=
  if n < 10 then Char.ofNat (48 + n) else Char.ofNat (55 + n)

/-- A number in lower-case digits, without leading zeros; zero is one digit. -/
def digits (n : Nat) : List Char :=
  if n < 16 then [lowerDigit n] else digits (n / 16) ++ [lowerDigit (n % 16)]

end StepGraph.Text.Hex
