import LiveVectors.Plane.Method

/-!
# Properties of vectors

Five properties can be read; all of them but the squared length can be written, with a number.
-/

set_option autoImplicit false

namespace LiveVectors

/-- The properties of a vector. -/
inductive Property where
  | angle
  | length
  | lengthSquared
  | x
  | y
deriving DecidableEq, Repr

namespace Property

/-- The name of a property in scripts. -/
def name : Property → String
  | angle => "angle"
  | length => "length"
  | lengthSquared => "length_squared"
  | x => "x"
  | y => "y"

/-- Every property once, in the order of their names. -/
def all : List Property := [angle, length, lengthSquared, x, y]

/-- The property of a name. -/
def ofName? (name : String) : Option Property := all.find? (·.name == name)

/-- The property of a name that a vector is asked for. -/
def named (name : String) : Except Fault Property :=
  match ofName? name with
  | some property => .ok property
  | none => .error (.breakdown (.noProperty name))

/-- Whether a property can be written. -/
def isWritable (property : Property) : Bool := property != lengthSquared

/-- The list of properties leaves none out. -/
theorem mem_all (property : Property) : property ∈ all := by
  cases property <;> decide

/-- A property is found by its name. -/
theorem ofName?_name (property : Property) : ofName? property.name = some property := by
  cases property <;> decide

/-- The value of a property. -/
def read (property : Property) (v : PlaneVector) : Float :=
  match property with
  | angle => v.angle
  | length => v.length
  | lengthSquared => v.lengthSquared
  | x => v.x
  | y => v.y

/-- The vector after a property is written.  There is no result for one that is only read. -/
def write? (property : Property) (v : PlaneVector) (value : Snapshot) :
    Option (Except Fault PlaneVector) :=
  match property with
  | angle => some do return v.withAngle (← Change.checkAngle (← value.toNumber property.name))
  | length => some do v.withLength (← value.toNumber property.name)
  | lengthSquared => none
  | x => some do return { v with x := ← value.toNumber property.name }
  | y => some do return { v with y := ← value.toNumber property.name }

/-- Exactly the writable properties can be written. -/
theorem isSome_write? (property : Property) (v : PlaneVector) (value : Snapshot) :
    (property.write? v value).isSome = property.isWritable := by
  cases property <;> rfl

end Property
end LiveVectors
