/-! The range of double-precision floating point, by two rules. A decimal literal
is in range when it does not round to infinity. A number in parts, a significand
below `2 ^ 64` and a power of ten, is in range when the product of the two nearest
doubles does not round to infinity; close to the bound that differs from the rule
for the exact value. -/
namespace StepGraph.Text

/-- Magnitudes from here on round to infinity. -/
def floatBound : Nat := (1 <<< 1024) - (1 <<< 970)

/-- Whether `mantissa` times ten to the `exponent` stays below `floatBound`;
`count` is the number of digits of the mantissa. -/
def inFloatRange (mantissa count : Nat) (exponent : Int) : Bool :=
  if mantissa = 0 then true
  else if exponent < 0 then
    if (count : Int) + exponent ≤ 308 then true
    else mantissa < floatBound * Nat.pow 10 exponent.natAbs
  else if 309 < exponent then false
  else mantissa * Nat.pow 10 exponent.natAbs < floatBound

/-- The nearest number with at most fifty-three binary digits before its zeros;
of two such numbers, the one whose last digit is even. -/
def nearestDouble (n : Nat) : Nat :=
  let unit := 1 <<< (n.log2 + 1 - 53)
  let below := n / unit
  let rest := n % unit
  let up := unit < 2 * rest || (2 * rest == unit && below % 2 == 1)
  (if up then below + 1 else below) * unit

/-- Whether the product of the doubles nearest to `significand` and to ten to the
`exponent` stays in range. -/
def isProductInFloatRange (significand : Nat) (exponent : Int) : Bool :=
  if significand = 0 ∨ exponent < 0 then true
  else if 308 < exponent then false
  else nearestDouble significand * nearestDouble (Nat.pow 10 exponent.natAbs) < floatBound

end StepGraph.Text
