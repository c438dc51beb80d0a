import LiveVectors.Number.Decimal
import LiveVectors.Number.Hypotenuse

/-!
# Vectors of the plane

A vector is a pair of doubles.  The operations here are pure; which of them change a vector that
others can see is decided where vectors are stored.
-/

set_option autoImplicit false

namespace LiveVectors

/-- A vector of the plane. -/
structure PlaneVector where
  x : Float
  y : Float
deriving DecidableEq, Repr, Inhabited

namespace PlaneVector

/-- The vector whose components `f` makes from the components of two vectors. -/
def zip (f : Float → Float → Float) (v w : PlaneVector) : PlaneVector := ⟨f v.x w.x, f v.y w.y⟩

/-- The vector whose components `f` makes from the components of one. -/
def map (f : Float → Float) (v : PlaneVector) : PlaneVector := ⟨f v.x, f v.y⟩

/-- The vector with both components `s`: how a number is read next to a vector. -/
def diagonal (s : Float) : PlaneVector := ⟨s, s⟩

def scale (v : PlaneVector) (s : Float) : PlaneVector := v.map (· * s)

def dot (v w : PlaneVector) : Float := v.x * w.x + v.y * w.y

def cross (v w : PlaneVector) : Float := v.x * w.y - v.y * w.x

def length (v : PlaneVector) : Float := Number.hypotenuse v.x v.y

def lengthSquared (v : PlaneVector) : Float := v.x * v.x + v.y * v.y

/-- The angle from the first axis, in radians. -/
def angle (v : PlaneVector) : Float := Float.atan2 v.y v.x

/-- The vector turned by an angle in radians. -/
def rotate (v : PlaneVector) (radians : Float) : PlaneVector :=
  let cos := Float.cos radians
  let sin := Float.sin radians
  ⟨v.x * cos - v.y * sin, v.x * sin + v.y * cos⟩

/-- The vector of the same length at another angle. -/
def withAngle (v : PlaneVector) (radians : Float) : PlaneVector :=
  ⟨Float.cos radians * v.length, Float.sin radians * v.length⟩

/-- Whether two vectors have equal components.  What is not a number equals nothing. -/
def sameComponents (v w : PlaneVector) : Bool := v.x == w.x && v.y == w.y

/-- A vector in a message: its components to six digits. -/
def render (v : PlaneVector) : String :=
  "Vec2(" ++ Number.generalText 6 v.x ++ ", " ++ Number.generalText 6 v.y ++ ")"

end PlaneVector
end LiveVectors
