import LiveVectors.Action
import LiveVectors.Number.Numeral
import LiveVectors.Number.Rounding
import LiveVectors.Plane.Division
import LiveVectors.Plane.Store

/-!
# Methods of vectors

The methods of a vector by name.  Eleven of them are a `Change`, and each change has two methods:
the one of its name changes the vector it is called on and gives that vector, and its twin, whose
name ends in `_new`, gives a new vector and changes none.  What a change makes of a vector is one
pure function, `Change.result`, so that both methods agree.

The other methods give copies and numbers, or overwrite the components.  `reset` takes anything
that can be converted to a number and writes one component after the other; all other methods
check their arguments before they write.

To call a method (`Store.call`) is to perform it (`Store.perform`) and to report arguments that do
not fit it as a mistake in the call.
-/

set_option autoImplicit false

namespace LiveVectors

/-! ## Arguments -/

/-- The only argument of a call. -/
def onlyArgument {α : Type} (method parameter : String) : List α → Except Fault α
  | [argument] => .ok argument
  | arguments => .error (.breakdown (.misfit (.wrongCount method [parameter] arguments.length)))

/-- A call without arguments. -/
def noArguments {α : Type} (method : String) : List α → Except Fault Unit
  | [] => .ok ()
  | arguments => .error (.breakdown (.misfit (.wrongCount method [] arguments.length)))

namespace Snapshot

/-- The vector that an operation expects. -/
def toVector (operation : String) : Snapshot → Except Fault PlaneVector
  | vector v => .ok v
  | given => .error (.badArgument (.expectsVector operation given))

/-- The number that an operation expects.  A truth value is none. -/
def toNumber (operation : String) : Snapshot → Except Fault Float
  | number x => .ok x
  | given => .error (.badArgument (.expectsNumber operation given))

/-- The number that a value is converted to. -/
def convert : Snapshot → Except Fault Float
  | number x => .ok x
  | truth b => .ok (if b then 1 else 0)
  | text s =>
    match Number.coerce? s.toList with
    | some x => .ok x
    | none => .error (.breakdown (.notANumeral s))
  | given => .error (.breakdown (.misfit (.notConvertible given)))

end Snapshot

/-! ## Changes -/

/-- The ways to change a vector that are available in place and as a new vector. -/
inductive Change where
  | add
  | subtract
  | multiply
  | divide
  | addScalar
  | subtractScalar
  | scale
  | negate
  | normalise
  | rotate
  | round
deriving DecidableEq, Repr

namespace Change

/-- The name of the method that makes a change in place. -/
def name : Change → String
  | add => "add"
  | subtract => "subtract"
  | multiply => "multiply"
  | divide => "divide"
  | addScalar => "add_scalar"
  | subtractScalar => "subtract_scalar"
  | scale => "scale"
  | negate => "negate"
  | normalise => "normalise"
  | rotate => "rotate"
  | round => "round"

/-- The vector argument of a change that is called by the method `method`. -/
def otherVector (change : Change) (method : String) (arguments : List Snapshot) :
    Except Fault PlaneVector := do
  (← onlyArgument method "other" arguments).toVector change.name

/-- The number argument of a change that is called by the method `method`. -/
def otherNumber (change : Change) (method parameter : String) (arguments : List Snapshot) :
    Except Fault Float := do
  (← onlyArgument method parameter arguments).toNumber change.name

/-- A component moved to the nearest integer. -/
def roundComponent (x : Float) : Except Fault Float :=
  match Number.roundToInteger x with
  | .ok rounded => .ok rounded
  | .error .notANumber => .error (.breakdown .roundsNotANumber)
  | .error .infinite => .error (.breakdown .roundsInfinity)

/-- An angle whose sine and cosine exist. -/
def checkAngle (radians : Float) : Except Fault Float :=
  if radians.isInf then .error (.breakdown .infiniteAngle) else .ok radians

/-- What a change makes of a vector; `method` is the name under which it is called. -/
def result (change : Change) (method : String) (v : PlaneVector) (arguments : List Snapshot) :
    Except Fault PlaneVector :=
  match change with
  | add => do return v.zip (· + ·) (← change.otherVector method arguments)
  | subtract => do return v.zip (· - ·) (← change.otherVector method arguments)
  | multiply => do return v.zip (· * ·) (← change.otherVector method arguments)
  | divide => do
    let w ← change.otherVector method arguments
    if w.x == 0 || w.y == 0 then .error (.badArgument .zeroDivisor)
    else v.divide w
  | addScalar => do
    let s ← change.otherNumber method "value" arguments
    return v.map (· + s)
  | subtractScalar => do
    let s ← change.otherNumber method "value" arguments
    return v.map (· - s)
  | scale => do return v.scale (← change.otherNumber method "value" arguments)
  | negate => do
    noArguments method arguments
    return v.scale (-1)
  | normalise => do
    noArguments method arguments
    v.normalise
  | rotate => do
    return v.rotate (← checkAngle (← change.otherNumber method "radians" arguments))
  | round => do
    noArguments method arguments
    let x ← roundComponent v.x
    let y ← roundComponent v.y
    return ⟨x, y⟩

end Change

/-! ## Methods -/

/-- The methods of a vector. -/
inductive Method where
  /-- Makes a change in place. -/
  | change (change : Change)
  /-- Gives a new vector that a change makes. -/
  | changed (change : Change)
  | clone
  | cross
  | distance
  | dot
  /-- Overwrites both components, one after the other. -/
  | reset
  /-- Overwrites both components with those of another vector. -/
  | resetToVector
deriving DecidableEq, Repr

namespace Method

/-- The name of a method in scripts. -/
def name : Method → String
  | change c => c.name
  | changed c => c.name ++ "_new"
  | clone => "clone"
  | cross => "cross"
  | distance => "distance"
  | dot => "dot"
  | reset => "reset"
  | resetToVector => "reset_to_vector"

/-- Every method once, in the order of their names. -/
def all : List Method :=
  [change .add, changed .add, change .addScalar, changed .addScalar, clone, cross, distance,
    change .divide, changed .divide, dot, change .multiply, changed .multiply, change .negate,
    changed .negate, change .normalise, changed .normalise, reset, resetToVector, change .rotate,
    changed .rotate, change .round, changed .round, change .scale, changed .scale,
    change .subtract, changed .subtract, change .subtractScalar, changed .subtractScalar]

/-- The method of a name. -/
def ofName? (name : String) : Option Method := all.find? (·.name == name)

/-- The list of methods leaves none out. -/
theorem mem_all (method : Method) : method ∈ all := by
  cases method with
  | change c => cases c <;> decide
  | changed c => cases c <;> decide
  | _ => decide

/-- A method is found by its name, so no two methods share one. -/
theorem ofName?_name (method : Method) : ofName? method.name = some method := by
  cases method with
  | change c => cases c <;> decide
  | changed c => cases c <;> decide
  | _ => decide

end Method

namespace Store

/-- Makes a vector. -/
def allocate (v : PlaneVector) : Action Store VectorId := do
  let id ← Action.inspect size
  Action.update (·.push v)
  return id

/-- Overwrites a vector. -/
def write (id : VectorId) (v : PlaneVector) : Action Store Unit := Action.update (·.set id v)

/-- Overwrites both components of a vector with converted values; the first one is written before
the second one is converted. -/
def reset (id : VectorId) (x y : Snapshot) : Action Store Unit := do
  let x ← Action.of (x.convert)
  Action.update fun store => store.set id ⟨x, (store.get id).y⟩
  let y ← Action.of (y.convert)
  Action.update fun store => store.set id ⟨(store.get id).x, y⟩

/-- The vector argument of a method that is no change. -/
def otherVector (method : Method) (operation : String) (arguments : List Snapshot) :
    Action Store PlaneVector := do
  Action.of do (← onlyArgument method.name "other" arguments).toVector operation

/-- Performs a method on a vector. -/
def perform (method : Method) (self : VectorId) (arguments : List Value) : Action Store Value := do
  let v ← Action.inspect (·.get self)
  let given ← Action.inspect fun store => arguments.map store.snapshot
  match method with
  | .change change =>
    write self (← Action.of (change.result method.name v given))
    return .vector self
  | .changed change =>
    return .vector (← allocate (← Action.of (change.result method.name v given)))
  | .clone =>
    Action.of (noArguments method.name given)
    return .vector (← allocate v)
  | .cross => return .number (v.cross (← otherVector method "cross" given))
  | .distance =>
    return .number (v.zip (· - ·) (← otherVector method "subtract" given)).length
  | .dot => return .number (v.dot (← otherVector method "dot" given))
  | .reset =>
    match given with
    | [x, y] =>
      reset self x y
      return .vector self
    | _ => Action.fail (.breakdown (.misfit (.wrongCount method.name ["x", "y"] given.length)))
  | .resetToVector =>
    write self (← otherVector method method.name given)
    return .vector self

/-- Calls a method on a vector.  Arguments that do not fit the method are a mistake in the call. -/
def call (method : Method) (self : VectorId) (arguments : List Value) : Action Store Value :=
  Action.mapFault (Fault.inCall method.name) (perform method self arguments)

end Store
end LiveVectors
