/-!
# Doubles as dyadic numbers

A finite double is `± mantissa · 2 ^ exponent`.  This file reads that form off the bits of a
double and, the other way round, rounds any dyadic number to the nearest double.  Everything
that has to be exact about numbers, their text included, starts from here.
-/

set_option autoImplicit false

namespace LiveVectors
namespace Number

/-- What the bits of a double say. -/
inductive Reading where
  | notANumber
  | infinite (negative : Bool)
  /-- `± mantissa · 2 ^ exponent`. -/
  | finite (negative : Bool) (mantissa : Nat) (exponent : Int)
deriving DecidableEq, Repr

/-- Reads a double: one bit of sign, eleven of exponent, fifty-two of fraction. -/
def read (x : Float) : Reading :=
  let bits := x.toBits.toNat
  let negative := bits >>> 63 == 1
  let power : Nat := bits >>> 52 % 1 <<< 11
  let fraction := bits % 1 <<< 52
  if power == 2047 then
    if fraction == 0 then .infinite negative else .notANumber
  else if power == 0 then .finite negative fraction (-1074)
  else .finite negative (1 <<< 52 + fraction) (Int.ofNat power - 1075)

/-- `x` with its sign turned if `negative` says so. -/
def withSign (negative : Bool) (x : Float) : Float := if negative then -x else x

/-- The double nearest to `coefficient · 10 ^ exponent`, ties to the even mantissa. -/
def ofDecimal (coefficient : Nat) (exponent : Int) : Float :=
  if 0 ≤ exponent then Float.ofScientific coefficient false exponent.toNat
  else Float.ofScientific coefficient true (-exponent).toNat

/-- The double nearest to `mantissa · 2 ^ exponent`, ties to the even mantissa.  A negative power
of two is a power of ten with a power of five taken out. -/
def ofDyadic (mantissa : Nat) (exponent : Int) : Float :=
  if 0 ≤ exponent then ofDecimal (mantissa <<< exponent.toNat) 0
  else ofDecimal (mantissa * Nat.pow 5 (-exponent).toNat) exponent

/-- The integer nearest to `numerator / denominator`; a tie goes to the even neighbour. -/
def divRound (numerator denominator : Nat) : Nat :=
  let quotient := numerator / denominator
  let doubled := 2 * (numerator % denominator)
  if doubled < denominator || (doubled == denominator && quotient % 2 == 0) then quotient
  else quotient + 1

/-- A dyadic number as a fraction of natural numbers. -/
def dyadicFraction (mantissa : Nat) (exponent : Int) : Nat × Nat :=
  if 0 ≤ exponent then (mantissa <<< exponent.toNat, 1) else (mantissa, 1 <<< (-exponent).toNat)

/-- The rounded quotient is no further than half a unit from the exact one. -/
theorem divRound_close (numerator denominator : Nat) (h : 0 < denominator) :
    2 * (divRound numerator denominator * denominator) ≤ 2 * numerator + denominator ∧
      2 * numerator ≤ 2 * (divRound numerator denominator * denominator) + denominator := by
  have exact := Nat.div_add_mod numerator denominator
  have small := Nat.mod_lt numerator h
  rw [Nat.mul_comm] at exact
  simp only [divRound]
  split
  · rename_i down
    simp only [Bool.or_eq_true, decide_eq_true_eq, Bool.and_eq_true, beq_iff_eq] at down
    omega
  · rename_i up
    simp only [Bool.or_eq_true, decide_eq_true_eq, Bool.and_eq_true, beq_iff_eq] at up
    rw [Nat.add_mul]
    omega

/-- Where two integers are equally near, the rounded quotient is the even one. -/
theorem divRound_even_of_tie (numerator denominator : Nat)
    (h : 2 * (numerator % denominator) = denominator) :
    divRound numerator denominator % 2 = 0 := by
  simp only [divRound, h]
  split <;> simp_all
  omega

example : divRound 5 2 = 2 ∧ divRound 7 2 = 4 ∧ divRound 8 3 = 3 := by decide

example : read 1.5 = .finite false (3 <<< 51) (-52) := by decide +kernel

example : read (-0.0) = .finite true 0 (-1074) := by decide +kernel

end Number
end LiveVectors
