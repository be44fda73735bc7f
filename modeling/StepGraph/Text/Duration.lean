import StepGraph.Text.Decimal

/-! Durations in words. A duration is a whole number of milliseconds; it is
written in seconds, with the fewest decimals that lose nothing, in milliseconds
when it is shorter than a second, and in nanoseconds when it is zero. -/
namespace StepGraph.Text

/-- The digits of a fraction of a thousand, without closing zeros. -/
def thousandths (n : Nat) : List Char :=
  let padded := List.replicate (3 - (Decimal.digits n).length) '0' ++ Decimal.digits n
  (padded.reverse.dropWhile (· == '0')).reverse

/-- A duration in words. -/
def duration (milliseconds : Nat) : String :=
  if milliseconds = 0 then "0ns"
  else if milliseconds < 1000 then String.ofList (Decimal.digits milliseconds) ++ "ms"
  else if milliseconds % 1000 = 0 then String.ofList (Decimal.digits (milliseconds / 1000)) ++ "s"
  else
    String.ofList (Decimal.digits (milliseconds / 1000) ++ '.' :: thousandths (milliseconds % 1000))
      ++ "s"

end StepGraph.Text
