import StepGraph.Shell.Utility.Options

/-! Whole numbers as arguments. -/
namespace StepGraph.Shell.Utility

/-- A whole number in decimal, perhaps a negative one. -/
def integer? (text : String) : Option Int :=
  match text.toList with
  | '-' :: rest => (number? (String.ofList rest)).map fun value => -(value : Int)
  | '+' :: rest => (number? (String.ofList rest)).map Int.ofNat
  | _ => (number? text).map Int.ofNat

/-- The decimal text of a whole number. -/
def integerText (value : Int) : String :=
  if value < 0 then "-" ++ Text.Decimal.text value.natAbs else Text.Decimal.text value.natAbs

end StepGraph.Shell.Utility
