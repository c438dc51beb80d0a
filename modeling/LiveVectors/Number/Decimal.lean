import LiveVectors.Number.Binary

/-!
# The text of a number

A number is written in two steps.  First its decimal digits are chosen: either as few as still
read back as the same double, or a fixed count of significant ones.  Then a `Layout` decides
where the digits are written positionally and where with an exponent.

`exactText` is the form that loses nothing; `generalText places` is the form for display.
-/

set_option autoImplicit false

namespace LiveVectors
namespace Number

/-- A row of decimal digits, read as a number between one and ten times `10 ^ power`. -/
structure Decimal where
  digits : List Char
  power : Int
deriving DecidableEq, Repr

namespace Decimal

/-- The digits of `coefficient · 10 ^ exponent` without the zeros at the end. -/
def ofCoefficient (coefficient : Nat) (exponent : Int) : Decimal :=
  let digits := Nat.toDigits 10 coefficient
  let kept := (digits.reverse.dropWhile (· == '0')).reverse
  ⟨if kept == [] then ['0'] else kept, exponent + digits.length - 1⟩

/-- The digit of zero. -/
def zero : Decimal := ⟨['0'], 0⟩

/-- The power of ten that a positive fraction reaches: its decimal exponent. -/
def decimalExponent (numerator denominator : Nat) : Int :=
  if denominator ≤ numerator then ((Nat.toDigits 10 (numerator / denominator)).length : Int) - 1
  else
    let places := (Nat.toDigits 10 (denominator / numerator)).length
    if denominator ≤ numerator * Nat.pow 10 (places - 1) then 1 - places else -places

/-- A fraction times a power of ten. -/
def shiftFraction (numerator denominator : Nat) (power : Int) : Nat × Nat :=
  if 0 ≤ power then (numerator * Nat.pow 10 power.toNat, denominator)
  else (numerator, denominator * Nat.pow 10 (-power).toNat)

/-- The first `places` digits of a positive fraction, the last of them rounded, a tie to even. -/
def significant (places numerator denominator : Nat) : Decimal :=
  let exponent := decimalExponent numerator denominator - places + 1
  let (n, d) := shiftFraction numerator denominator (-exponent)
  ofCoefficient (divRound n d) exponent

/-- Of the two decimals with `places` digits around a positive fraction the nearer one that
reads back as `x`; an exact tie goes to the even one. -/
def readingBack? (x : Float) (places numerator denominator : Nat) : Option Decimal :=
  let exponent := decimalExponent numerator denominator - places + 1
  let (n, d) := shiftFraction numerator denominator (-exponent)
  let below := n / d
  let nearer := divRound n d
  let further := if nearer == below then below + 1 else below
  if ofDecimal nearer exponent == x then some (ofCoefficient nearer exponent)
  else if ofDecimal further exponent == x then some (ofCoefficient further exponent)
  else none

/-- The fewest digits that read back as the positive double `x`, which the fraction equals.
Seventeen digits always read back. -/
def shortest (x : Float) (numerator denominator : Nat) : Decimal :=
  ((List.range 17).findSome? fun n => readingBack? x (n + 1) numerator denominator).getD
    (significant 17 numerator denominator)

end Decimal

/-- How digits become text. -/
structure Layout where
  /-- The least power of ten that is written positionally. -/
  least : Int
  /-- The first power of ten beyond that takes an exponent again. -/
  bound : Int
  /-- Whether a whole number in positional form ends in `.0`. -/
  wholeMark : Bool
deriving DecidableEq, Repr

namespace Layout

/-- An exponent: its sign and at least two digits. -/
def exponentText (power : Int) : List Char :=
  let digits := Nat.toDigits 10 power.natAbs
  (if power < 0 then '-' else '+') :: List.replicate (2 - digits.length) '0' ++ digits

/-- The text of a decimal without its sign. -/
def magnitudeText (layout : Layout) (decimal : Decimal) : List Char :=
  let digits := decimal.digits
  let power := decimal.power
  if power < layout.least || layout.bound ≤ power then
    let point := if digits.length ≤ 1 then [] else ['.']
    digits.take 1 ++ point ++ digits.drop 1 ++ 'e' :: exponentText power
  else if power < 0 then
    '0' :: '.' :: List.replicate (-power - 1).toNat '0' ++ digits
  else
    let count := power.toNat + 1
    let whole := digits.take count ++ List.replicate (count - digits.length) '0'
    let fraction := digits.drop count
    if fraction == [] then (if layout.wholeMark then whole ++ ['.', '0'] else whole)
    else whole ++ '.' :: fraction

/-- The text of a decimal. -/
def text (layout : Layout) (negative : Bool) (decimal : Decimal) : String :=
  String.ofList (if negative then '-' :: layout.magnitudeText decimal
    else layout.magnitudeText decimal)

end Layout

/-- The text of any double, given how the digits of a positive fraction are chosen. -/
def textWith (layout : Layout) (digits : Nat → Nat → Decimal) (x : Float) : String :=
  match read x with
  | .notANumber => "nan"
  | .infinite negative => if negative then "-inf" else "inf"
  | .finite negative mantissa exponent =>
    if mantissa == 0 then layout.text negative .zero
    else
      let (numerator, denominator) := dyadicFraction mantissa exponent
      layout.text negative (digits numerator denominator)

/-- Exact numbers are positional from `0.0001` to below `10 ^ 16`, and whole ones end in `.0`. -/
def exactLayout : Layout := ⟨-4, 16, true⟩

/-- A double in the fewest digits that read back as it. -/
def exactText (x : Float) : String := textWith exactLayout (Decimal.shortest (Float.abs x)) x

/-- A double to `places` significant digits without zeros at the end, positional from `0.0001`
to below `10 ^ places`. -/
def generalText (places : Nat) (x : Float) : String :=
  textWith ⟨-4, places, false⟩ (Decimal.significant places) x

example : exactText 0.1 = "0.1" ∧ exactText (0.1 + 0.2) = "0.30000000000000004" := by
  decide +kernel

example : exactText 1e16 = "1e+16" ∧ exactText (-5) = "-5.0" ∧ exactText 1.5e-7 = "1.5e-07" := by
  decide +kernel

example : generalText 6 1234567 = "1.23457e+06" ∧ generalText 6 (-0.0) = "-0" := by
  decide +kernel

end Number
end LiveVectors
