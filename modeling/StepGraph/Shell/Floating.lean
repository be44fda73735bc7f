import StepGraph.Text.Decimal
import StepGraph.Text.Hex

/-! Numbers in floating point: whole numbers times powers of two. A text denotes the
number of a kind that is nearest to it, and a number is written with the digits that are
nearest to it; of two that are equally near, the even one. -/
namespace StepGraph.Text

/-- A kind of floating point. -/
structure FloatKind where
  /-- How many binary digits a number has at most. -/
  digits : Nat
  /-- The power of two of which all numbers are multiples. -/
  least : Int
  /-- The power of two below which all numbers stay. -/
  bound : Nat

/-- Floating point of sixty-four bits. -/
def FloatKind.double : FloatKind := ⟨53, -1074, 1024⟩

/-- Floating point of eighty bits. -/
def FloatKind.extended : FloatKind := ⟨64, -16445, 16384⟩

/-- A number in floating point, or what stands in the place of one. -/
inductive Floating
  | finite (negative : Bool) (mantissa : Nat) (exponent : Int)
  | infinite (negative : Bool)
  | undefined (negative : Bool)

namespace Floating

/-- A quotient, rounded to the nearest whole number. -/
def nearestQuotient (numerator denominator : Nat) : Nat :=
  let below := numerator / denominator
  let rest := 2 * (numerator % denominator)
  if denominator < rest || (rest = denominator && below % 2 = 1) then below + 1 else below

/-- Two factors that multiply by a power: of a numerator and of a denominator. -/
def power (base : Nat) (exponent : Int) : Nat × Nat :=
  (Nat.pow base exponent.toNat, Nat.pow base (-exponent).toNat)

/-! ## Reading -/

/-- The number of a kind that is nearest to a quotient. -/
def nearest (kind : FloatKind) (negative : Bool) (numerator denominator : Nat) : Floating :=
  if numerator = 0 then .finite negative 0 0
  else
    let size : Int := numerator.log2 - denominator.log2
    -- the quotient has as many binary digits as its size says, or one more
    let place := max kind.least (size - (kind.digits - 1 : Nat))
    let rounded (place : Int) : Nat :=
      let (up, down) := power 2 place
      nearestQuotient (numerator * down) (denominator * up)
    let place := if kind.digits < (rounded place).log2 + 1 then place + 1 else place
    let place := if kind.least < place && (rounded place).log2 + 1 < kind.digits then place - 1
      else place
    let mantissa := rounded place
    if kind.bound < place + (mantissa.log2 + 1 : Nat) then .infinite negative
    else .finite negative mantissa place

/-- What a text says at its beginning. -/
structure Reading where
  value : Floating
  rest : List Char
  /-- Whether no number of the kind is near what the text says. -/
  outOfRange : Bool

/-- Exponents beyond this are not told apart. -/
def exponentLimit : Nat := 20000

/-- The exponent at the beginning of a text, if there is one. -/
def exponent? (mark : Char) : List Char → Option (Int × List Char)
  | c :: rest =>
    let (negative, digits) := match rest with
      | '-' :: digits => (true, digits)
      | '+' :: digits => (false, digits)
      | digits => (false, digits)
    let written := digits.takeWhile Decimal.isDigit
    if c.toLower = mark && written ≠ [] then
      let size := min exponentLimit (Decimal.value written)
      some (if negative then -(size : Int) else size, digits.drop written.length)
    else none
  | [] => none

/-- The digits at the beginning of a text, those behind a point as well, and how many
of them stand behind it. -/
def pointed (isDigit : Char → Bool) (chars : List Char) : List Char × Nat × List Char :=
  let whole := chars.takeWhile isDigit
  match chars.drop whole.length with
  | '.' :: rest =>
    let part := rest.takeWhile isDigit
    if whole = [] && part = [] then ([], 0, chars)
    else (whole ++ part, part.length, rest.drop part.length)
  | rest => (whole, 0, rest)

/-- Reads the number at the beginning of a text: in decimal, or in the base of sixteen
behind a mark; or a word that stands in its place. -/
def read? (kind : FloatKind) (text : List Char) : Option Reading :=
  let text := text.dropWhile fun c => c = ' ' || ('\t' ≤ c && c ≤ '\r')
  let (negative, chars) := match text with
    | '-' :: rest => (true, rest)
    | '+' :: rest => (false, rest)
    | rest => (false, rest)
  let word (name : String) (value : Floating) : Option Reading :=
    if (chars.take name.length).map Char.toLower = name.toList then
      some ⟨value, chars.drop name.length, false⟩
    else none
  let number (digits : Nat) (scale : Nat × Nat) (rest : List Char) : Reading :=
    let value := nearest kind negative (digits * scale.1) scale.2
    let outOfRange := match value with
      | .finite _ mantissa _ => mantissa = 0 && digits ≠ 0
      | _ => true
    ⟨value, rest, outOfRange⟩
  let hexadecimal : Option Reading :=
    match chars with
    | '0' :: x :: rest =>
      let (digits, places, rest) := pointed (fun c => (Hex.value? c).isSome) rest
      if x.toLower ≠ 'x' || digits = [] then none
      else
        let value := digits.foldl (fun total c => total * 16 + (Hex.value? c).getD 0) 0
        let (exponent, rest) := (exponent? 'p' rest).getD (0, rest)
        some (number value (power 2 (exponent - 4 * places)) rest)
    | _ => none
  let decimal : Option Reading :=
    let (digits, places, rest) := pointed Decimal.isDigit chars
    if digits = [] then none
    else
      let (exponent, rest) := (exponent? 'e' rest).getD (0, rest)
      some (number (Decimal.value digits) (power 10 (exponent - places)) rest)
  word "infinity" (.infinite negative) <|> word "inf" (.infinite negative) <|>
    word "nan" (.undefined negative) <|> hexadecimal <|> decimal

/-! ## Writing -/

/-- Whether a number has a sign. -/
def isNegative : Floating → Bool
  | .finite negative _ _ | .infinite negative | .undefined negative => negative

/-- How digits are written. -/
inductive Notation
  /-- So many digits behind the point. -/
  | fixed
  /-- One digit in front of the point, so many behind it, and an exponent. -/
  | scientific
  /-- So many digits in the shorter of the two ways. -/
  | general
  deriving DecidableEq

/-- Digits with a point before the last so many of them. -/
def withPoint (digits : List Char) (places : Nat) (keepsPoint : Bool) : List Char :=
  let digits := List.replicate (places + 1 - digits.length) '0' ++ digits
  let (whole, part) := digits.splitAt (digits.length - places)
  if part = [] && !keepsPoint then whole else whole ++ '.' :: part

/-- The digits of a fraction with one in front of the point and so many behind it, and
the power of ten of the first. -/
def scientificDigits (numerator denominator places : Nat) : Nat × Int :=
  if numerator = 0 then (0, 0)
  else
    let count (n : Nat) : Nat := (Decimal.digits n).length
    let first : Int :=
      if denominator ≤ numerator then (count (numerator / denominator) : Int) - 1
      else
        let zeros := count (denominator / numerator)
        if denominator ≤ numerator * Nat.pow 10 (zeros - 1) then 1 - (zeros : Int)
        else -(zeros : Int)
    let (up, down) := power 10 (places - first)
    let digits := nearestQuotient (numerator * up) (denominator * down)
    if count digits ≤ places + 1 then (digits, first) else (digits / 10, first + 1)

/-- Text without the zeros at the end of a fraction. -/
def withoutZeros (digits : List Char) : List Char :=
  if digits.contains '.' then
    let kept := digits.reverse.dropWhile (· = '0')
    (if kept.head? = some '.' then kept.drop 1 else kept).reverse
  else digits

/-- The text of an exponent. -/
def exponentText (exponent : Int) : List Char :=
  let digits := Decimal.digits exponent.natAbs
  'e' :: (if exponent < 0 then '-' else '+') ::
    (List.replicate (2 - digits.length) '0' ++ digits)

/-- The text of the magnitude of a number. With `alternate`, the point is always written,
and zeros at the end as well. -/
def magnitude (value : Floating) (style : Notation) (precision : Nat) (alternate : Bool) :
    List Char :=
  match value with
  | .infinite _ => "inf".toList
  | .undefined _ => "nan".toList
  | .finite _ mantissa exponent =>
    let (up, denominator) := power 2 exponent
    let numerator := mantissa * up
    let fixed (places : Nat) : List Char :=
      withPoint (Decimal.digits (nearestQuotient (numerator * Nat.pow 10 places) denominator))
        places alternate
    match style with
    | .fixed => fixed precision
    | .scientific =>
      let (digits, first) := scientificDigits numerator denominator precision
      withPoint (Decimal.digits digits) precision alternate ++ exponentText first
    | .general =>
      let count := max 1 precision
      let (digits, first) := scientificDigits numerator denominator (count - 1)
      let shortened (text : List Char) : List Char :=
        if alternate then text else withoutZeros text
      if -4 ≤ first && first < count then shortened (fixed (count - 1 - first).toNat)
      else shortened (withPoint (Decimal.digits digits) (count - 1) alternate) ++ exponentText first

end Floating
end StepGraph.Text
