import LiveVectors.Number.Binary

/-!
# The length of a hypotenuse

`hypotenuse x y` is the square root of `x² + y²`.  The sum of the squares is exact, so that
neither overflow nor underflow of a square spoils the result; the root is taken to at least sixty
bits, and one more bit records whether it is exact.  The root is rounded as a number between one
and two and moved to its place after that, which is exact unless the result is subnormal.

Where both components are below `2 ^ (-1024)` the greater one is factored out instead.
-/

set_option autoImplicit false

namespace LiveVectors
namespace Number

/-- Adds to `root` the bits below `2 ^ bits` that keep its square at most `n`. -/
def rootBits (n : Nat) : Nat → Nat → Nat
  | 0, root => root
  | bits + 1, root =>
    let larger := root + 1 <<< bits
    rootBits n bits (if larger * larger ≤ n then larger else root)

/-- The integer part of the square root of `n`. -/
def rootFloor (n : Nat) : Nat := rootBits n (n.log2 / 2 + 1) 0

/-- The square root of `n · 4 ^ exponent`, rounded to the nearest double before it is moved to its
power of two. -/
def rootOfDyadic (n : Nat) (exponent : Int) : Float :=
  let extra := 61 - n.log2 / 2
  let wide := n <<< (2 * extra)
  let root := rootFloor wide
  let doubled := 2 * root + if root * root == wide then 0 else 1
  let power : Int := doubled.log2
  ofDyadic doubled (-power) * ofDyadic 1 (exponent - extra - 1 + power)

/-- The square root of `1 + (lesser / greater)²`, times the greater one. -/
def rootByRatio (greater lesser : Float) : Float :=
  let ratio := lesser / greater
  greater * Float.sqrt (1 + ratio * ratio)

/-- The length of the vector with components `x` and `y`, correctly rounded.  An infinite component
makes it infinite, whatever the other one is.

A mathematical library only promises a length that is close, and can differ in the last place: for
`3569303590617025` and `13599834528142632` the exact length is `14060420595232993`, halfway between
two numbers, and while the even one of them is `14060420595232992`, there are libraries that give
`14060420595232994`. -/
def hypotenuse (x y : Float) : Float :=
  match read x, read y with
  | .infinite _, _ => Float.abs x
  | _, .infinite _ => Float.abs y
  | .notANumber, _ => x
  | _, .notANumber => y
  | .finite _ m p, .finite _ n q =>
    let least := min p q
    let a := m <<< (p - least).toNat
    let b := n <<< (q - least).toNat
    if a == 0 && b == 0 then 0.0
    else if least == -1074 && a < 1 <<< 50 && b < 1 <<< 50 then
      if a < b then rootByRatio (Float.abs y) (Float.abs x)
      else rootByRatio (Float.abs x) (Float.abs y)
    else rootOfDyadic (a * a + b * b) least

theorem rootBits_sq_le (n bits root : Nat) (h : root * root ≤ n) :
    rootBits n bits root * rootBits n bits root ≤ n := by
  induction bits generalizing root with
  | zero => exact h
  | succ bits ih =>
    rw [rootBits]
    apply ih
    split <;> assumption

theorem lt_rootBits_succ_sq (n bits root : Nat)
    (h : n < (root + 1 <<< bits) * (root + 1 <<< bits)) :
    n < (rootBits n bits root + 1) * (rootBits n bits root + 1) := by
  induction bits generalizing root with
  | zero => simpa [rootBits] using h
  | succ bits ih =>
    rw [rootBits]
    apply ih
    split
    · have double : root + 1 <<< bits + 1 <<< bits = root + 1 <<< (bits + 1) := by
        rw [Nat.shiftLeft_succ]
        omega
      rw [double]
      exact h
    · omega

/-- **The integer root is the floor of the square root**: its square does not exceed the number,
and the square of its successor does. -/
theorem rootFloor_bounds (n : Nat) :
    rootFloor n * rootFloor n ≤ n ∧ n < (rootFloor n + 1) * (rootFloor n + 1) := by
  refine ⟨rootBits_sq_le n _ 0 (Nat.zero_le n), lt_rootBits_succ_sq n _ 0 ?_⟩
  have below : n < 2 ^ (n.log2 + 1) := Nat.lt_log2_self
  have wide : 2 ^ (n.log2 + 1) ≤ 2 ^ (n.log2 / 2 + 1 + (n.log2 / 2 + 1)) :=
    Nat.pow_le_pow_right (by decide) (by omega)
  rw [Nat.zero_add, Nat.one_shiftLeft, ← Nat.pow_add]
  exact Nat.lt_of_lt_of_le below wide

example : hypotenuse 3 4 = 5 := by decide +kernel

example : hypotenuse (-3e300) 4e300 = 5e300 := by decide +kernel

example : hypotenuse 3569303590617025 13599834528142632 = 14060420595232992 := by decide +kernel

end Number
end LiveVectors
