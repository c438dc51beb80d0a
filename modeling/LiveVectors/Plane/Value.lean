import LiveVectors.Plane.Vector
import LiveVectors.Text.Quoted

/-!
# Values

Scripts compute numbers, texts and vectors.  A vector is known by its identity, so that several
names can share one vector and all of them see it change.  A host can pass two more kinds of
values in: truth values and the absence of a value.  Neither is a number.

A `Snapshot` is a value as it stands at one moment, with the components of a vector in place of
its identity.
-/

set_option autoImplicit false

namespace LiveVectors

/-- The identity of a stored vector. -/
abbrev VectorId := Nat

/-- A value that a variable, an operand or an argument can be. -/
inductive Value where
  | number (x : Float)
  | text (s : String)
  | vector (id : VectorId)
  | truth (b : Bool)
  | absent
deriving DecidableEq, Repr, Inhabited

/-- The identity of a value that is a vector. -/
def Value.vectorId? : Value → Option VectorId
  | .vector id => some id
  | _ => none

/-- A value as it stands at one moment. -/
inductive Snapshot where
  | number (x : Float)
  | text (s : String)
  | vector (v : PlaneVector)
  | truth (b : Bool)
  | absent
deriving DecidableEq, Repr, Inhabited

namespace Snapshot

/-- How a value is written in a message. -/
def render : Snapshot → String
  | number x => Number.exactText x
  | text s => Text.quote s
  | vector v => v.render
  | truth b => if b then "True" else "False"
  | absent => "None"

/-- What kind of value this is, for a message about a conversion. -/
def kindName : Snapshot → String
  | number _ => "float"
  | text _ => "str"
  | vector _ => "Vec2"
  | truth _ => "bool"
  | absent => "NoneType"

/-- The number that a value counts as where any two values are compared. -/
def asNumber? : Snapshot → Option Float
  | number x => some x
  | truth b => some (if b then 1 else 0)
  | _ => none

/-- Whether two values are equal: numbers and truth values as numbers, vectors by their
components, texts by their characters. -/
def equals (first second : Snapshot) : Bool :=
  match first, second with
  | vector v, vector w => v.sameComponents w
  | text s, text t => s == t
  | absent, absent => true
  | first, second =>
    match first.asNumber?, second.asNumber? with
    | some x, some y => x == y
    | _, _ => false

end Snapshot
end LiveVectors
