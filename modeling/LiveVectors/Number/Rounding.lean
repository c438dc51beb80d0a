import LiveVectors.Number.Binary

/-!
# Rounding to integers

A double is rounded to the nearest integer, a tie to the even one.  The result goes through the
integers, so a zero that comes out of rounding has no sign.
-/

set_option autoImplicit false

namespace LiveVectors
namespace Number

/-- Why a double has no nearest integer. -/
inductive RoundingFault where
  | notANumber
  | infinite
deriving DecidableEq, Repr

/-- The integer nearest to a double. -/
def nearestInteger (x : Float) : Except RoundingFault Int :=
  match read x with
  | .notANumber => .error .notANumber
  | .infinite _ => .error .infinite
  | .finite negative mantissa exponent =>
    let (numerator, denominator) := dyadicFraction mantissa exponent
    let size : Int := divRound numerator denominator
    .ok (if negative then -size else size)

/-- An integer as a double. -/
def ofInteger (n : Int) : Float := withSign (decide (n < 0)) (ofDecimal n.natAbs 0)

/-- A double moved to the nearest integer. -/
def roundToInteger (x : Float) : Except RoundingFault Float := do
  return ofInteger (← nearestInteger x)

example : (nearestInteger 2.5).toOption = some 2 := by decide +kernel

example : (nearestInteger (-3.5)).toOption = some (-4) := by decide +kernel

example : (roundToInteger (-0.4)).toOption = some 0.0 := by decide +kernel

end Number
end LiveVectors
