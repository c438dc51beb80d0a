import LiveVectors.Fault

/-!
# Division of vectors

Nothing can be divided by a zero, of either sign.  So the operations that divide by a length look at
it first, and the caller of `PlaneVector.divide` has to look at the components.
-/

set_option autoImplicit false

namespace LiveVectors

/-- One double divided by another. -/
def quotient (x y : Float) : Except Fault Float :=
  if y == 0 then .error (.breakdown .zeroDivision) else .ok (x / y)

theorem quotient_of_ne {y : Float} (h : (y == 0) = false) (x : Float) :
    quotient x y = .ok (x / y) := by
  rw [quotient, h, if_neg Bool.false_ne_true]

namespace PlaneVector

/-- The components of one vector divided by those of another. -/
def divide (v w : PlaneVector) : Except Fault PlaneVector := do
  let x ← quotient v.x w.x
  let y ← quotient v.y w.y
  return ⟨x, y⟩

/-- The vector of length one in the same direction; a vector of length zero stays as it is. -/
def normalise (v : PlaneVector) : Except Fault PlaneVector :=
  if v.length == 0 then .ok v else do return v.scale (← quotient 1 v.length)

/-- The vector of another length in the same direction; a vector of length zero stays as it is. -/
def withLength (v : PlaneVector) (length : Float) : Except Fault PlaneVector :=
  if v.length == 0 then .ok v else do return v.scale (← quotient length v.length)

/-! ## No division by zero -/

/-- A vector without a zero component can be divided by. -/
theorem divide_of_ne (v : PlaneVector) {w : PlaneVector} (h : (w.x == 0 || w.y == 0) = false) :
    v.divide w = .ok (v.zip (· / ·) w) := by
  rw [Bool.or_eq_false_iff] at h
  rw [divide, quotient_of_ne h.1, quotient_of_ne h.2]
  rfl

example : (PlaneVector.mk 1 2).divide ⟨3, -0⟩ = .error (.breakdown .zeroDivision) := rfl

/-- Every vector can be given another length. -/
theorem withLength_eq (v : PlaneVector) (length : Float) :
    v.withLength length =
      .ok (if v.length == 0 then v else v.scale (length / v.length)) := by
  rw [withLength]
  split
  · rfl
  · rename_i hlength
    rw [quotient_of_ne (Bool.eq_false_iff.2 hlength)]
    rfl

/-- Every vector can be normalised. -/
theorem normalise_eq (v : PlaneVector) :
    v.normalise = .ok (if v.length == 0 then v else v.scale (1 / v.length)) :=
  v.withLength_eq 1

end PlaneVector
end LiveVectors
